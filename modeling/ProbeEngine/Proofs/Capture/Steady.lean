import ProbeEngine.Proofs.Capture.Steps

/-!
# Captures with steady getters

A getter may answer something else on each call, so what is captured depends on how
many getters ran before. It does not if every getter answers the same on each call
(`Getters.Steady`): then a value is captured alike whenever it is captured
(`steady_captureWithin`). That is one way for two computations to be related in their
results, however many getters ran before each (`Counting.Related`).
-/

namespace ProbeEngine

open Host (Value Heap Kind PropertyKey Property ObjectId Getters Counting)

namespace Host

/-- Getters that answer the same on every call. -/
def Getters.Steady (g : Getters) : Prop :=
  ∀ h getter n m receiver, g.call h getter n receiver = g.call h getter m receiver

/-- The results of two computations are related, however many getters ran before each. -/
def Counting.Related {α β : Type} (S : α → β → Prop) (x : Counting α) (y : Counting β) : Prop :=
  ∀ n m, S (x.run n).1 (y.run m).1

namespace Counting.Related

variable {α β γ δ : Type} {S : α → β → Prop} {T : γ → δ → Prop}

theorem pure {a : α} {b : β} (h : S a b) :
    Counting.Related S (Pure.pure a) (Pure.pure b) := fun _ _ => h

theorem bind {x : Counting α} {y : Counting β} {f : α → Counting γ} {f' : β → Counting δ}
    (hxy : Counting.Related S x y) (hf : ∀ a b, S a b → Counting.Related T (f a) (f' b)) :
    Counting.Related T (x >>= f) (y >>= f') := by
  intro n m
  have hx : ((x >>= f).run n).1 = ((f (x.run n).1).run (x.run n).2).1 := rfl
  have hy : ((y >>= f').run m).1 = ((f' (y.run m).1).run (y.run m).2).1 := rfl
  rw [hx, hy]
  exact hf _ _ (hxy n m) _ _

end Counting.Related

/-- A computation whose result does not depend on how many getters ran before. -/
def Counting.Steady {α : Type} (x : Counting α) : Prop := ∀ n m, (x.run n).1 = (x.run m).1

namespace Counting.Steady

variable {α β : Type}

theorem pure (a : α) : Counting.Steady (Pure.pure a : Counting α) := fun _ _ => rfl

theorem bind {x : Counting α} {f : α → Counting β} (hx : Counting.Steady x)
    (hf : ∀ a, Counting.Steady (f a)) : Counting.Steady (x >>= f) := by
  refine Counting.Related.bind (S := Eq) hx fun a b hab => ?_
  subst hab
  exact hf a

theorem mapM {f : α → Counting β} (hf : ∀ a, Counting.Steady (f a)) (as : List α) :
    Counting.Steady (as.mapM f) := by
  induction as with
  | nil => exact pure []
  | cons a as ih =>
    rw [List.mapM_cons]
    exact bind (hf a) fun b => bind ih fun bs => pure (b :: bs)

end Counting.Steady

/-- What a property comes to when it is read of a receiver. -/
inductive Property.Gives (g : Getters) (h : Heap) (receiver : Value) : Property → Value → Prop
  | data (x : Value) : Gives g h receiver (.data x) x
  | answer {getter n : Nat} {x : Value} (hx : g.call h getter n receiver = .ok x) :
      Gives g h receiver (.accessor getter) x

end Host

namespace Capture

variable {g : Getters} {capture : Value → Counting Captured}

/-! ## Parts by a steady capture of values -/

/-- A property is read alike, and what it gives is captured alike in whatever sense values are. -/
theorem related_captureProperty {S : Captured → Captured → Prop} (hS : ∀ c, S c c)
    {f f' : Value → Counting Captured} {h : Heap} (hg : g.Steady) (receiver : Value)
    {p : Option Property}
    (hp : ∀ q x, p = some q → q.Gives g h receiver x → Counting.Related S (f x) (f' x)) :
    Counting.Related S (captureProperty f g h receiver p) (captureProperty f' g h receiver p) := by
  cases p with
  | none => exact .pure (hS _)
  | some q =>
    cases q with
    | data v => exact hp _ v rfl (.data v)
    | accessor getter =>
      have hrun : Counting.Related (fun a b => a = b ∧ ∃ n, g.call h getter n receiver = a)
          (g.run h getter receiver) (g.run h getter receiver) :=
        fun n m => ⟨hg h getter n m receiver, n, rfl⟩
      refine .bind hrun fun a b hab => ?_
      obtain ⟨rfl, n, hn⟩ := hab
      cases a with
      | ok v => exact hp _ v rfl (.answer hn)
      | error thrown => exact .pure (hS _)

theorem steady_captureProperty (hg : g.Steady) (hc : ∀ v, Counting.Steady (capture v)) (h : Heap)
    (receiver : Value) (p : Option Property) :
    Counting.Steady (captureProperty capture g h receiver p) :=
  related_captureProperty (fun _ => rfl) hg receiver fun _ x _ _ => hc x

theorem steady_captureFields (hg : g.Steady) (hc : ∀ v, Counting.Steady (capture v)) (h : Heap)
    (limits : CaptureLimits) (id : ObjectId) :
    Counting.Steady (captureFields capture g h limits id) := by
  unfold captureFields
  refine .bind (.mapM (fun p => ?_) _) fun fs => .pure _
  exact .bind (steady_captureProperty hg hc h _ _) fun c => .pure _

theorem steady_captureError (hg : g.Steady) (hc : ∀ v, Counting.Steady (capture v)) (h : Heap)
    (limits : CaptureLimits) (name : String) (id : ObjectId) :
    Counting.Steady (captureError capture g h limits name id) := by
  have hown : ∀ key, Counting.Steady (captureProperty capture g h (.object id)
      (h.ownProperty? id (.string key))) :=
    fun key => steady_captureProperty hg hc h _ _
  have hname : Counting.Steady (captureErrorName capture g h limits name id) := by
    unfold captureErrorName
    split
    · exact .pure _
    · exact hown "name"
  have hcause : Counting.Steady (captureErrorCause capture g h id) := by
    unfold captureErrorCause
    split
    · exact .pure _
    · exact .bind (hown "cause") fun c => .pure _
  rw [captureError_eq]
  refine .bind (hown "message") fun message => .bind hname fun nameField => ?_
  exact .bind (hown "stack") fun stack => .bind hcause fun cause => .pure _

theorem steady_captureElements (hc : ∀ v, Counting.Steady (capture v)) (limits : CaptureLimits)
    (type : String) (xs : List Value) :
    Counting.Steady (captureElements capture limits type xs) := by
  unfold captureElements
  exact .bind (.mapM hc _) fun cs => .pure _

theorem steady_captureEntries (hc : ∀ v, Counting.Steady (capture v)) (limits : CaptureLimits)
    (es : List (Value × Value)) : Counting.Steady (captureEntries capture limits es) := by
  unfold captureEntries
  refine .bind (.mapM (fun e => ?_) _) fun cs => .pure _
  exact .bind (hc e.1) fun k => .bind (hc e.2) fun v => .pure _

theorem steady_captureParts (hg : g.Steady) (hc : ∀ v, Counting.Steady (capture v)) (h : Heap)
    (limits : CaptureLimits) (id : ObjectId) (k : Kind) :
    Counting.Steady (captureParts capture g h limits id k) := by
  cases k with
  | error name => exact steady_captureError hg hc h limits name id
  | array xs => exact steady_captureElements hc limits _ xs
  | typedArray t xs => exact steady_captureElements hc limits _ xs
  | set xs => exact steady_captureElements hc limits _ xs
  | map es => exact steady_captureEntries hc limits es
  | _ => exact steady_captureFields hg hc h limits id

/-! ## Values -/

/-- **With steady getters a value is captured alike whenever it is captured.** -/
theorem steady_captureWithin (hg : g.Steady) (h : Heap) (limits : CaptureLimits) (levels : Nat)
    (v : Value) : Counting.Steady (captureWithin g h limits levels v) := by
  induction levels generalizing v with
  | zero =>
    unfold captureWithin
    split
    · exact .pure _
    · split <;> exact .pure _
  | succ levels ih =>
    unfold captureWithin
    split
    · exact .pure _
    · split
      · exact steady_captureParts hg ih h limits _ _
      · exact .pure _

theorem steady_captureAll (hg : g.Steady) (h : Heap) (limits : CaptureLimits)
    (vs : List (String × Value)) : Counting.Steady (captureAll g h limits vs) := by
  unfold captureAll
  refine .bind (.mapM (fun v => ?_) _) fun cs => .pure _
  exact .bind (steady_captureWithin hg h limits _ v.2) fun c => .pure _

end Capture

end ProbeEngine
