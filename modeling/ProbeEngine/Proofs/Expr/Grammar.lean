import Mathlib.Tactic.SplitIfs
import ProbeEngine.Expr.Compile
import ProbeEngine.Proofs.Results

/-!
# The grammar of expressions

Which JSON trees are expressions is said here on the trees alone (`Grammatical`): the
literals, and the objects of a single field that names an operation and holds arguments
of the shape that the operation wants, each of which is an expression in turn. The
names in an expression are those of its variables and constructors (`Expr.mentions`).

* `compileOperation_unary` to `compileOperation_variadic` — what the operations of one shape
  compile to, and `known_of_compileOperation` — there are no others but four;
* `of_compile`, `exists_compile` — from a result to the grammar, and back;
* `compile_accepts_grammar` — **the compiler accepts exactly the grammar**, and lets no
  name through that is not allowed.

Which texts are patterns, and which characters may stand in identifiers, is taken as it
is.
-/

namespace ProbeEngine

/-! ## Names -/

namespace Identifier

/-- A name of the host's grammar for identifiers. -/
def IsName (name : String) : Prop :=
  ∃ c cs, name.toList = c :: cs ∧ (Unicode.isIdentifierStart c = true ∨ c = '$' ∨ c = '_') ∧
    ∀ x ∈ cs, Unicode.isIdentifierContinue x = true ∨ x = '$' ∨ x.toNat = 0x200C ∨
      x.toNat = 0x200D

/-- A name that an expression may use for a variable or a constructor. -/
def Allowed (name : String) : Prop := IsName name ∧ name ∉ reservedWords

theorem isIdentifier_iff (name : String) : isIdentifier name = true ↔ IsName name := by
  rw [isIdentifier, IsName]
  cases hname : name.toList with
  | nil => simp [isIdentifierChars]
  | cons c cs =>
    simp only [isIdentifierChars, isStart, isContinue, Bool.and_eq_true, Bool.or_eq_true,
      beq_iff_eq, List.all_eq_true, List.cons.injEq, or_assoc]
    constructor
    · rintro ⟨hstart, hrest⟩
      exact ⟨c, cs, ⟨rfl, rfl⟩, hstart, hrest⟩
    · rintro ⟨_, _, ⟨rfl, rfl⟩, hstart, hrest⟩
      exact ⟨hstart, hrest⟩

end Identifier

/-- The check of names accepts those that are allowed. -/
theorem checkIdentifier_eq_ok_iff (name : String) :
    checkIdentifier name = .ok () ↔ Identifier.Allowed name := by
  have hreserved : Identifier.isReserved name = true ↔ name ∈ Identifier.reservedWords := by
    rw [Identifier.isReserved, List.contains_iff_mem]
  rw [checkIdentifier, Identifier.Allowed, ← Identifier.isIdentifier_iff, ← hreserved]
  cases Identifier.isIdentifier name <;> cases Identifier.isReserved name <;> simp

/-- A name as it stands in an expression: that of a variable, or that of a
constructor to test for. -/
inductive Mention
  | variable (name : String)
  | constructor (name : String)
  deriving DecidableEq, Repr

namespace Mention

/-- The name that is mentioned. -/
def name : Mention → String
  | .variable n => n
  | .constructor n => n

/-- A mention that the language has: a variable is a special one or has an allowed
name, a constructor has an allowed name. -/
def Allowed : Mention → Prop
  | .variable n => n ∈ Expr.specialVariables ∨ Identifier.Allowed n
  | .constructor n => Identifier.Allowed n

end Mention

namespace Expr

mutual

/-- The names in an expression, in the order in which they stand. The references to the
variables of loops are none. -/
def mentions : Expr → List Mention
  | .literal _ => []
  | .reference (.variable name) => [.variable name]
  | .reference _ => []
  | .instanceOf e (.constructor name) => mentions e ++ [.constructor name]
  | .instanceOf e (.primitive _) => mentions e
  | .negation e | .length e | .isEmpty e | .isDefined e | .matchesPattern e _ => mentions e
  | .equal l r | .notEqual l r | .compare _ l r | .any l r | .all l r | .filter l r
  | .startsWith l r | .endsWith l r | .contains l r | .matchesValue l r
  | .member l r | .index l r => mentions l ++ mentions r
  | .substring e start finish => mentions e ++ mentions start ++ mentions finish
  | .conjunction es | .disjunction es => mentionsOfAll es

/-- The names in some expressions. -/
def mentionsOfAll : List Expr → List Mention
  | [] => []
  | e :: es => mentions e ++ mentionsOfAll es

end

theorem mem_mentionsOfAll {m : Mention} {es : List Expr} :
    m ∈ mentionsOfAll es ↔ ∃ e ∈ es, m ∈ e.mentions := by
  induction es with
  | nil => simp [mentionsOfAll]
  | cons e es ih => simp [mentionsOfAll, ih]

/-! ## The grammar -/

/-- The names of the variables of loops. -/
def loopVariables : List String := ["@it", "@key", "@value"]

/-- The operations on one node. -/
def unaryOperations : List String := ["not", "len", "count", "isEmpty", "isDefined"]

/-- The operations on two nodes. -/
def binaryOperations : List String :=
  ["eq", "ne", "gt", "ge", "lt", "le", "any", "all", "filter", "startsWith", "endsWith",
   "contains", "getmember", "index"]

/-- The operations on one or more nodes. -/
def variadicOperations : List String := ["and", "or"]

/-- The JSON trees that are expressions. -/
inductive Grammatical : Json → Prop
  | null : Grammatical .null
  | bool (b : Bool) : Grammatical (.bool b)
  | integer (n : Int) : Grammatical (.integer n)
  | float (x : Float) : Grammatical (.float x)
  | string (s : String) : Grammatical (.string s)
  | reference {name : String}
      (hname : name ∈ loopVariables ∨ name ∈ specialVariables ∨ Identifier.Allowed name) :
      Grammatical (.object [("ref", .string name)])
  | unary {op : String} {j : Json} (hop : op ∈ unaryOperations) (hj : Grammatical j) :
      Grammatical (.object [(op, j)])
  | binary {op : String} {a b : Json} (hop : op ∈ binaryOperations) (ha : Grammatical a)
      (hb : Grammatical b) : Grammatical (.object [(op, .array [a, b])])
  | variadic {op : String} {js : List Json} (hop : op ∈ variadicOperations) (hne : js ≠ [])
      (hjs : ∀ j ∈ js, Grammatical j) : Grammatical (.object [(op, .array js)])
  | substring {a b c : Json} (ha : Grammatical a) (hb : Grammatical b) (hc : Grammatical c) :
      Grammatical (.object [("substring", .array [a, b, c])])
  | instanceOf {a : Json} {name : String} (ha : Grammatical a)
      (hname : name ∈ primitiveTypes ∨ Identifier.Allowed name) :
      Grammatical (.object [("instanceof", .array [a, .string name])])
  | matchesPattern {a : Json} {source : String} (ha : Grammatical a)
      (hsource : (Regex.pattern? source).isSome) :
      Grammatical (.object [("matches", .array [a, .string source])])
  | matchesValue {a b : Json} (ha : Grammatical a) (hb : Grammatical b)
      (htext : ∀ s, b ≠ .string s) : Grammatical (.object [("matches", .array [a, b])])

theorem not_isName_of_mem_loopVariables {name : String} (h : name ∈ loopVariables) :
    ¬ Identifier.IsName name := by
  rw [← Identifier.isIdentifier_iff]
  simp only [loopVariables, List.mem_cons, List.not_mem_nil, or_false] at h
  rcases h with rfl | rfl | rfl <;> decide

theorem not_mem_loopVariables_of_mem_specialVariables :
    ∀ name ∈ specialVariables, name ∉ loopVariables := by
  decide

/-- No variable of the call and no constructor has the name of a loop variable. -/
theorem not_mem_loopVariables_of_allowed {m : Mention} (h : m.Allowed) :
    m.name ∉ loopVariables := by
  intro hloop
  match m, h with
  | .variable name, .inl hspecial =>
    exact not_mem_loopVariables_of_mem_specialVariables name hspecial hloop
  | .variable name, .inr hname => exact not_isName_of_mem_loopVariables hloop hname.1
  | .constructor name, hname => exact not_isName_of_mem_loopVariables hloop hname.1

/-! ## Arguments -/

/-- A node with what compiling it gives. -/
def compiled (j : Json) : Compiled := ⟨j, compile j⟩

theorem whole_analyse (j : Json) : (analyse j).whole = compiled j := by
  cases j <;> simp only [compiled, compile, analyse]

theorem analyseItems_eq (js : List Json) : analyseItems js = js.map compiled := by
  induction js with
  | nil => rfl
  | cons j js ih => rw [analyseItems, whole_analyse, ih, List.map_cons]

theorem items_analyse_array (js : List Json) :
    (analyse (.array js)).items = some (js.map compiled) := by
  rw [analyse, analyseItems_eq]

/-- The items of the arguments are those of an array. -/
theorem of_items_analyse {j : Json} {cs : List Compiled} (h : (analyse j).items = some cs) :
    ∃ js, j = .array js ∧ cs = js.map compiled := by
  cases j with
  | array js =>
    rw [items_analyse_array, Option.some.injEq] at h
    exact ⟨js, rfl, h.symm⟩
  | _ =>
    rw [analyse] at h
    exact nomatch h

theorem compile_object (op : String) (j : Json) :
    compile (.object [(op, j)]) = compileOperation op (analyse j) := by
  rw [compile, analyse, analyseFields, analyseFields, compileObject]

/-- An object that compiles has a single field. -/
theorem of_compile_object {fields : List (String × Json)} {e : Expr}
    (h : compile (.object fields) = .ok e) :
    ∃ op j, fields = [(op, j)] ∧ compileOperation op (analyse j) = .ok e := by
  match fields with
  | [] =>
    simp only [compile, analyse, analyseFields, compileObject] at h
    exact nomatch h
  | [(op, j)] => exact ⟨op, j, rfl, by rw [← compile_object, h]⟩
  | _ :: _ :: _ =>
    simp only [compile, analyse, analyseFields, compileObject] at h
    exact nomatch h

/-! ## Operations by the shape of their arguments -/

theorem compileOperation_unary {op : String} (h : op ∈ unaryOperations) :
    ∃ f : Expr → Expr, (∀ e, (f e).mentions = e.mentions) ∧
      ∀ args, compileOperation op args = args.whole.result.map f := by
  simp only [unaryOperations, List.mem_cons, List.not_mem_nil, or_false] at h
  rcases h with rfl | rfl | rfl | rfl | rfl <;>
    exact ⟨_, fun _ => by rw [mentions], fun _ => rfl⟩

theorem compileOperation_binary {op : String} (h : op ∈ binaryOperations) :
    ∃ f : Expr → Expr → Expr, (∀ l r, (f l r).mentions = l.mentions ++ r.mentions) ∧
      ∀ args, compileOperation op args = binary op args f := by
  simp only [binaryOperations, List.mem_cons, List.not_mem_nil, or_false] at h
  rcases h with rfl | rfl | rfl | rfl | rfl | rfl | rfl | rfl | rfl | rfl | rfl | rfl | rfl | rfl
    <;> exact ⟨_, fun _ _ => by rw [mentions], fun _ => rfl⟩

theorem compileOperation_variadic {op : String} (h : op ∈ variadicOperations) :
    ∃ f : List Expr → Expr, (∀ es, (f es).mentions = mentionsOfAll es) ∧
      ∀ args, compileOperation op args = variadic op args f := by
  simp only [variadicOperations, List.mem_cons, List.not_mem_nil, or_false] at h
  rcases h with rfl | rfl <;> exact ⟨_, fun _ => by rw [mentions], fun _ => rfl⟩

theorem compileOperation_substring (args : Arguments) :
    compileOperation "substring" args = ternary "substring" args .substring := rfl

theorem compileOperation_instanceOf (args : Arguments) :
    compileOperation "instanceof" args = compileInstanceOf "instanceof" args := rfl

theorem compileOperation_matches (args : Arguments) :
    compileOperation "matches" args = compileMatches "matches" args := rfl

/-- Every operation that compiles is known. -/
theorem known_of_compileOperation {op : String} {args : Arguments} {e : Expr}
    (h : compileOperation op args = .ok e) :
    op ∈ unaryOperations ∨ op ∈ binaryOperations ∨ op ∈ variadicOperations ∨
      op ∈ ["ref", "instanceof", "substring", "matches"] := by
  unfold compileOperation at h
  split at h <;> first | decide | exact nomatch h

/-! ### What an operation that compiles was given -/

/-- Two arguments are the compiled items of an array of two. -/
theorem of_items_two {j : Json} {ca cb : Compiled} (h : (analyse j).items = some [ca, cb]) :
    ∃ a b, j = .array [a, b] ∧ ca = compiled a ∧ cb = compiled b := by
  obtain ⟨js, rfl, hcs⟩ := of_items_analyse h
  match js, hcs with
  | [a, b], hcs =>
    simp only [List.map_cons, List.map_nil, List.cons.injEq, and_true] at hcs
    exact ⟨a, b, rfl, hcs.1, hcs.2⟩

/-- Three arguments are the compiled items of an array of three. -/
theorem of_items_three {j : Json} {ca cb cc : Compiled}
    (h : (analyse j).items = some [ca, cb, cc]) :
    ∃ a b c, j = .array [a, b, c] ∧ ca = compiled a ∧ cb = compiled b ∧ cc = compiled c := by
  obtain ⟨js, rfl, hcs⟩ := of_items_analyse h
  match js, hcs with
  | [a, b, c], hcs =>
    simp only [List.map_cons, List.map_nil, List.cons.injEq, and_true] at hcs
    exact ⟨a, b, c, rfl, hcs.1, hcs.2.1, hcs.2.2⟩

theorem of_binary {op : String} {j : Json} {f : Expr → Expr → Expr} {e : Expr}
    (h : binary op (analyse j) f = .ok e) :
    ∃ a b l r, j = .array [a, b] ∧ compile a = .ok l ∧ compile b = .ok r ∧ e = f l r := by
  unfold binary at h
  split at h
  · rename_i hitems
    obtain ⟨a, b, rfl, rfl, rfl⟩ := of_items_two hitems
    obtain ⟨l, hl, h⟩ := bind_eq_ok_iff.1 h
    obtain ⟨r, hr, h⟩ := bind_eq_ok_iff.1 h
    exact ⟨a, b, l, r, rfl, hl, hr, (Except.ok.inj h).symm⟩
  · exact nomatch h

theorem of_ternary {op : String} {j : Json} {f : Expr → Expr → Expr → Expr} {e : Expr}
    (h : ternary op (analyse j) f = .ok e) :
    ∃ a b c x y z, j = .array [a, b, c] ∧ compile a = .ok x ∧ compile b = .ok y ∧
      compile c = .ok z ∧ e = f x y z := by
  unfold ternary at h
  split at h
  · rename_i hitems
    obtain ⟨a, b, c, rfl, rfl, rfl, rfl⟩ := of_items_three hitems
    obtain ⟨x, hx, h⟩ := bind_eq_ok_iff.1 h
    obtain ⟨y, hy, h⟩ := bind_eq_ok_iff.1 h
    obtain ⟨z, hz, h⟩ := bind_eq_ok_iff.1 h
    exact ⟨a, b, c, x, y, z, rfl, hx, hy, hz, (Except.ok.inj h).symm⟩
  · exact nomatch h

/-- If some nodes compile, each one compiles to a result of them, and each result comes
from one. -/
theorem of_collect {js : List Json} {es : List Expr} (h : collect (js.map compiled) = .ok es) :
    (∀ j ∈ js, ∃ e ∈ es, compile j = .ok e) ∧ ∀ e ∈ es, ∃ j ∈ js, compile j = .ok e := by
  induction js generalizing es with
  | nil =>
    cases h
    exact ⟨by simp, by simp⟩
  | cons j js ih =>
    rw [List.map_cons, collect] at h
    obtain ⟨e, he, h⟩ := bind_eq_ok_iff.1 h
    obtain ⟨rest, hrest, h⟩ := bind_eq_ok_iff.1 h
    cases h
    obtain ⟨hall, hfrom⟩ := ih hrest
    have hj : compile j = .ok e := he
    refine ⟨List.forall_mem_cons.2 ⟨⟨e, List.mem_cons_self, hj⟩, fun i hi => ?_⟩,
      List.forall_mem_cons.2 ⟨⟨j, List.mem_cons_self, hj⟩, fun x hx => ?_⟩⟩
    · obtain ⟨x, hx, hi⟩ := hall i hi
      exact ⟨x, List.mem_cons_of_mem e hx, hi⟩
    · obtain ⟨i, hi, hx⟩ := hfrom x hx
      exact ⟨i, List.mem_cons_of_mem j hi, hx⟩

theorem exists_collect {js : List Json} (h : ∀ j ∈ js, ∃ e, compile j = .ok e) :
    ∃ es, collect (js.map compiled) = .ok es := by
  induction js with
  | nil => exact ⟨[], rfl⟩
  | cons j js ih =>
    obtain ⟨⟨e, he⟩, hrest⟩ := List.forall_mem_cons.1 h
    obtain ⟨es, hes⟩ := ih hrest
    exact ⟨e :: es, bind_eq_ok_iff.2 ⟨e, he, bind_eq_ok_iff.2 ⟨es, hes, rfl⟩⟩⟩

theorem of_variadic {op : String} {j : Json} {f : List Expr → Expr} {e : Expr}
    (h : variadic op (analyse j) f = .ok e) :
    ∃ js es, j = .array js ∧ js ≠ [] ∧ collect (js.map compiled) = .ok es ∧ e = f es := by
  unfold variadic at h
  split at h
  · rename_i hitems
    obtain ⟨js, rfl, hcs⟩ := of_items_analyse hitems
    rw [hcs] at h
    obtain ⟨es, hes, rfl⟩ := map_eq_ok_iff.1 h
    refine ⟨js, es, rfl, ?_, hes, rfl⟩
    rintro rfl
    exact nomatch hcs
  · exact nomatch h

theorem of_compileInstanceOf {op : String} {j : Json} {e : Expr}
    (h : compileInstanceOf op (analyse j) = .ok e) :
    ∃ a name x type, j = .array [a, .string name] ∧ compile a = .ok x ∧
      compileTypeName name = .ok type ∧ e = .instanceOf x type := by
  unfold compileInstanceOf at h
  split at h
  · rename_i hitems
    obtain ⟨a, b, rfl, rfl, rfl⟩ := of_items_two hitems
    split at h
    · rename_i name hname
      obtain ⟨x, hx, h⟩ := bind_eq_ok_iff.1 h
      obtain ⟨type, ht, h⟩ := bind_eq_ok_iff.1 h
      have hb : b = .string name := hname
      exact ⟨a, name, x, type, by rw [hb], hx, ht, (Except.ok.inj h).symm⟩
    · exact nomatch h
  · exact nomatch h

theorem of_compileMatches {op : String} {j : Json} {e : Expr}
    (h : compileMatches op (analyse j) = .ok e) :
    ∃ a b x, j = .array [a, b] ∧ compile a = .ok x ∧
      ((∃ source p, b = .string source ∧ Regex.pattern? source = some p ∧
          e = .matchesPattern x p) ∨
        ((∀ s, b ≠ .string s) ∧ ∃ y, compile b = .ok y ∧ e = .matchesValue x y)) := by
  unfold compileMatches at h
  split at h
  · rename_i hitems
    obtain ⟨a, b, rfl, rfl, rfl⟩ := of_items_two hitems
    split at h
    · rename_i source hsource
      split at h
      · rename_i p hp
        obtain ⟨x, hx, rfl⟩ := map_eq_ok_iff.1 h
        exact ⟨a, b, x, rfl, hx, .inl ⟨source, p, hsource, hp, rfl⟩⟩
      · exact nomatch h
    · rename_i htext
      obtain ⟨y, hy, h⟩ := bind_eq_ok_iff.1 h
      obtain ⟨x, hx, h⟩ := bind_eq_ok_iff.1 h
      exact ⟨a, b, x, rfl, hx, .inr ⟨htext, y, hy, (Except.ok.inj h).symm⟩⟩
  · exact nomatch h

/-! ## Names that compile -/

theorem of_ref {j : Json} {e : Expr} (h : compileOperation "ref" (analyse j) = .ok e) :
    ∃ name r, j = .string name ∧ compileReference name = .ok r ∧ e = .reference r := by
  cases j with
  | string name =>
    have href : compileOperation "ref" (analyse (.string name)) =
        (compileReference name).map reference := by
      rw [analyse]
      rfl
    rw [href] at h
    obtain ⟨r, hr, rfl⟩ := map_eq_ok_iff.1 h
    exact ⟨name, r, rfl, hr, rfl⟩
  | _ =>
    rw [analyse] at h
    exact nomatch h

theorem of_compileReference {name : String} {r : Reference} (h : compileReference name = .ok r) :
    (name ∈ loopVariables ∨ name ∈ specialVariables ∨ Identifier.Allowed name) ∧
      ∀ m ∈ (reference r).mentions, m.Allowed := by
  unfold compileReference at h
  split at h
  · rename_i hname
    cases h
    exact ⟨.inl (by rw [hname]; decide), by simp [mentions]⟩
  split at h
  · rename_i hname
    cases h
    exact ⟨.inl (by rw [hname]; decide), by simp [mentions]⟩
  split at h
  · rename_i hname
    cases h
    exact ⟨.inl (by rw [hname]; decide), by simp [mentions]⟩
  split at h
  · rename_i hname
    cases h
    have hspecial : name ∈ specialVariables := List.contains_iff_mem.1 hname
    exact ⟨.inr (.inl hspecial), by simp [mentions, Mention.Allowed, hspecial]⟩
  · obtain ⟨u, hu, rfl⟩ := map_eq_ok_iff.1 h
    have hallowed := (checkIdentifier_eq_ok_iff name).1 hu
    exact ⟨.inr (.inr hallowed), by simp [mentions, Mention.Allowed, hallowed]⟩

theorem exists_compileReference {name : String}
    (h : name ∈ loopVariables ∨ name ∈ specialVariables ∨ Identifier.Allowed name) :
    ∃ r, compileReference name = .ok r := by
  unfold compileReference
  split_ifs with hitem hkey hvalue hspecial
  · exact ⟨_, rfl⟩
  · exact ⟨_, rfl⟩
  · exact ⟨_, rfl⟩
  · exact ⟨_, rfl⟩
  · have hallowed : Identifier.Allowed name := by
      rcases h with hloop | hspecial' | hallowed
      · simp [loopVariables, hitem, hkey, hvalue] at hloop
      · exact absurd (List.contains_iff_mem.2 hspecial') hspecial
      · exact hallowed
    exact ⟨.variable name, by rw [(checkIdentifier_eq_ok_iff name).2 hallowed]; rfl⟩

theorem of_compileTypeName {name : String} {type : TypeName}
    (h : compileTypeName name = .ok type) :
    (type = .primitive name ∧ name ∈ primitiveTypes) ∨
      (type = .constructor name ∧ Identifier.Allowed name) := by
  unfold compileTypeName at h
  split at h
  · rename_i hname
    exact .inl ⟨(Except.ok.inj h).symm, List.contains_iff_mem.1 hname⟩
  · obtain ⟨u, hu, rfl⟩ := map_eq_ok_iff.1 h
    exact .inr ⟨rfl, (checkIdentifier_eq_ok_iff name).1 hu⟩

theorem exists_compileTypeName {name : String}
    (h : name ∈ primitiveTypes ∨ Identifier.Allowed name) :
    ∃ type, compileTypeName name = .ok type := by
  unfold compileTypeName
  split
  · exact ⟨_, rfl⟩
  · rename_i hname
    have hallowed : Identifier.Allowed name :=
      h.resolve_left fun hp => hname (List.contains_iff_mem.2 hp)
    exact ⟨.constructor name, by rw [(checkIdentifier_eq_ok_iff name).2 hallowed]; rfl⟩

/-! ## From a result to the grammar -/

/-- A node of the grammar, read as an expression whose names are allowed. -/
structure WellRead (j : Json) (e : Expr) : Prop where
  grammatical : Grammatical j
  allowed : ∀ m ∈ e.mentions, m.Allowed

/-- The nodes that an operation may compile: its argument, or the items of that. -/
inductive IsArgument : Json → Json → Prop
  | whole (j : Json) : IsArgument j j
  | item {j : Json} {js : List Json} (hj : j ∈ js) : IsArgument j (.array js)

theorem IsArgument.sizeOf_le {j arg : Json} (h : IsArgument j arg) : sizeOf j ≤ sizeOf arg := by
  cases h with
  | whole => exact Nat.le_refl _
  | item hj =>
    have := List.sizeOf_lt_of_mem hj
    rw [Json.array.sizeOf_spec]
    omega

/-- An operation that compiles is of the grammar if its arguments are. -/
theorem of_compileOperation {op : String} {arg : Json} {e : Expr}
    (h : compileOperation op (analyse arg) = .ok e)
    (ih : ∀ {j e}, IsArgument j arg → compile j = .ok e → WellRead j e) :
    WellRead (.object [(op, arg)]) e := by
  rcases known_of_compileOperation h with hop | hop | hop | hop
  · obtain ⟨f, hf, heq⟩ := compileOperation_unary hop
    rw [heq, whole_analyse] at h
    obtain ⟨x, hx, rfl⟩ := map_eq_ok_iff.1 h
    have hx := ih (.whole arg) hx
    exact ⟨.unary hop hx.grammatical, by rw [hf]; exact hx.allowed⟩
  · obtain ⟨f, hf, heq⟩ := compileOperation_binary hop
    rw [heq] at h
    obtain ⟨a, b, l, r, rfl, hl, hr, rfl⟩ := of_binary h
    have hl := ih (.item (by simp)) hl
    have hr := ih (.item (by simp)) hr
    refine ⟨.binary hop hl.grammatical hr.grammatical, ?_⟩
    rw [hf]
    exact List.forall_mem_append.2 ⟨hl.allowed, hr.allowed⟩
  · obtain ⟨f, hf, heq⟩ := compileOperation_variadic hop
    rw [heq] at h
    obtain ⟨js, es, rfl, hne, hes, rfl⟩ := of_variadic h
    obtain ⟨hall, hfrom⟩ := of_collect hes
    refine ⟨.variadic hop hne fun j hj => ?_, fun m hm => ?_⟩
    · obtain ⟨e, -, he⟩ := hall j hj
      exact (ih (.item hj) he).grammatical
    · rw [hf, mem_mentionsOfAll] at hm
      obtain ⟨e, he, hm⟩ := hm
      obtain ⟨j, hj, he⟩ := hfrom e he
      exact (ih (.item hj) he).allowed m hm
  · simp only [List.mem_cons, List.not_mem_nil, or_false] at hop
    rcases hop with rfl | rfl | rfl | rfl
    · obtain ⟨name, r, rfl, hr, rfl⟩ := of_ref h
      obtain ⟨hallowed, hmentions⟩ := of_compileReference hr
      exact ⟨.reference hallowed, hmentions⟩
    · obtain ⟨a, name, x, type, rfl, hx, htype, rfl⟩ := of_compileInstanceOf h
      have hx := ih (.item (by simp)) hx
      rcases of_compileTypeName htype with ⟨rfl, hname⟩ | ⟨rfl, hname⟩
      · exact ⟨.instanceOf hx.grammatical (.inl hname), by rw [mentions]; exact hx.allowed⟩
      · refine ⟨.instanceOf hx.grammatical (.inr hname), ?_⟩
        rw [mentions]
        exact List.forall_mem_append.2 ⟨hx.allowed, List.forall_mem_singleton.2 hname⟩
    · obtain ⟨a, b, c, x, y, z, rfl, hx, hy, hz, rfl⟩ := of_ternary h
      have hx := ih (.item (by simp)) hx
      have hy := ih (.item (by simp)) hy
      have hz := ih (.item (by simp)) hz
      refine ⟨.substring hx.grammatical hy.grammatical hz.grammatical, ?_⟩
      rw [mentions]
      exact List.forall_mem_append.2
        ⟨List.forall_mem_append.2 ⟨hx.allowed, hy.allowed⟩, hz.allowed⟩
    · obtain ⟨a, b, x, rfl, hx, ⟨source, p, rfl, hp, rfl⟩ | ⟨htext, y, hy, rfl⟩⟩ :=
        of_compileMatches h
      · have hx := ih (.item (by simp)) hx
        exact ⟨.matchesPattern hx.grammatical (by rw [hp]; rfl), by
          rw [mentions]
          exact hx.allowed⟩
      · have hx := ih (.item (by simp)) hx
        have hy := ih (.item (by simp)) hy
        refine ⟨.matchesValue hx.grammatical hy.grammatical htext, ?_⟩
        rw [mentions]
        exact List.forall_mem_append.2 ⟨hx.allowed, hy.allowed⟩

/-- **What compiles is of the grammar**, and the names in it are allowed. The induction is
on the tree: an operation that compiles has arguments that do. -/
theorem of_compile (j : Json) {e : Expr} (h : compile j = .ok e) : WellRead j e := by
  match j with
  | .null | .bool _ | .integer _ | .float _ | .string _ =>
    cases h
    exact ⟨by constructor, by simp [mentions]⟩
  | .array _ => exact nomatch h
  | .object fields =>
    obtain ⟨op, arg, hfields, hop⟩ := of_compile_object h
    rw [hfields]
    exact of_compileOperation hop fun hj he => of_compile _ he
termination_by sizeOf j
decreasing_by
  have := hj.sizeOf_le
  simp only [hfields, Json.object.sizeOf_spec, List.cons.sizeOf_spec, Prod.mk.sizeOf_spec]
  omega

/-! ## From the grammar to a result -/

theorem exists_binary {a b : Json} {l r : Expr} (hl : compile a = .ok l) (hr : compile b = .ok r)
    (op : String) (f : Expr → Expr → Expr) :
    binary op (analyse (.array [a, b])) f = .ok (f l r) := by
  simp only [binary, items_analyse_array, List.map_cons, List.map_nil]
  exact bind_eq_ok_iff.2 ⟨l, hl, bind_eq_ok_iff.2 ⟨r, hr, rfl⟩⟩

/-- **What is of the grammar compiles.** -/
theorem exists_compile {j : Json} (h : Grammatical j) : ∃ e, compile j = .ok e := by
  induction h with
  | null => exact ⟨_, rfl⟩
  | bool b => exact ⟨_, rfl⟩
  | integer n => exact ⟨_, rfl⟩
  | float x => exact ⟨_, rfl⟩
  | string s => exact ⟨_, rfl⟩
  | reference hname =>
    obtain ⟨r, hr⟩ := exists_compileReference hname
    exact ⟨.reference r, by rw [compile_object]; exact map_eq_ok_iff.2 ⟨r, hr, rfl⟩⟩
  | unary hop _ ih =>
    obtain ⟨e, he⟩ := ih
    obtain ⟨f, -, heq⟩ := compileOperation_unary hop
    rw [compile_object, heq, whole_analyse]
    exact ⟨f e, map_eq_ok_iff.2 ⟨e, he, rfl⟩⟩
  | binary hop _ _ iha ihb =>
    obtain ⟨l, hl⟩ := iha
    obtain ⟨r, hr⟩ := ihb
    obtain ⟨f, -, heq⟩ := compileOperation_binary hop
    rw [compile_object, heq]
    exact ⟨f l r, exists_binary hl hr _ f⟩
  | @variadic op js hop hne _ ih =>
    obtain ⟨es, hes⟩ := exists_collect ih
    obtain ⟨f, -, heq⟩ := compileOperation_variadic hop
    rw [compile_object, heq, variadic, items_analyse_array]
    cases js with
    | nil => exact absurd rfl hne
    | cons j js => exact ⟨f es, map_eq_ok_iff.2 ⟨es, hes, rfl⟩⟩
  | substring _ _ _ iha ihb ihc =>
    obtain ⟨x, hx⟩ := iha
    obtain ⟨y, hy⟩ := ihb
    obtain ⟨z, hz⟩ := ihc
    refine ⟨.substring x y z, ?_⟩
    rw [compile_object, compileOperation_substring]
    simp only [ternary, items_analyse_array, List.map_cons, List.map_nil]
    exact bind_eq_ok_iff.2 ⟨x, hx, bind_eq_ok_iff.2 ⟨y, hy, bind_eq_ok_iff.2 ⟨z, hz, rfl⟩⟩⟩
  | instanceOf _ hname ih =>
    obtain ⟨x, hx⟩ := ih
    obtain ⟨type, htype⟩ := exists_compileTypeName hname
    refine ⟨.instanceOf x type, ?_⟩
    rw [compile_object, compileOperation_instanceOf]
    simp only [compileInstanceOf, items_analyse_array, List.map_cons, List.map_nil, compiled]
    exact bind_eq_ok_iff.2 ⟨x, hx, bind_eq_ok_iff.2 ⟨type, htype, rfl⟩⟩
  | matchesPattern _ hsource ih =>
    obtain ⟨x, hx⟩ := ih
    obtain ⟨p, hp⟩ := Option.isSome_iff_exists.1 hsource
    refine ⟨.matchesPattern x p, ?_⟩
    rw [compile_object, compileOperation_matches]
    simp only [compileMatches, items_analyse_array, List.map_cons, List.map_nil, compiled, hp]
    exact map_eq_ok_iff.2 ⟨x, hx, rfl⟩
  | @matchesValue a b _ _ htext iha ihb =>
    obtain ⟨x, hx⟩ := iha
    obtain ⟨y, hy⟩ := ihb
    refine ⟨.matchesValue x y, ?_⟩
    rw [compile_object, compileOperation_matches]
    simp only [compileMatches, items_analyse_array, List.map_cons, List.map_nil, compiled]
    cases b with
    | string s => exact absurd rfl (htext s)
    | _ => exact bind_eq_ok_iff.2 ⟨y, hy, bind_eq_ok_iff.2 ⟨x, hx, rfl⟩⟩

/-- **The compiler accepts exactly the grammar.** A tree compiles if and only if it is of
the grammar, and each variable and each constructor that the expression mentions has a
special name or one that is an identifier and no reserved word. -/
theorem compile_accepts_grammar (node : Json) :
    ((∃ e, compile node = .ok e) ↔ Grammatical node) ∧
      ∀ e, compile node = .ok e → ∀ m ∈ e.mentions, m.Allowed := by
  refine ⟨⟨?_, exists_compile⟩, fun e he => (of_compile node he).allowed⟩
  rintro ⟨e, he⟩
  exact (of_compile node he).grammatical

/-- A test for a type beside a match with what the call returned. -/
theorem compile_accepts_nested_operations :
    let node : Json := .object [("and", .array
      [.object [("instanceof", .array [.object [("ref", .string "user")], .string "Map"])],
        .object [("matches", .array [.string "a", .object [("ref", .string "@return")]])]])]
    let e : Expr := .conjunction
      [.instanceOf (.reference (.variable "user")) (.constructor "Map"),
        .matchesValue (.literal (.string "a")) (.reference (.variable "@return"))]
    Grammatical node ∧ compile node = .ok e ∧
      ∀ m ∈ [Mention.variable "user", .constructor "Map", .variable "@return"], m.Allowed := by
  intro node e
  have he : compile node = .ok e := rfl
  obtain ⟨haccepts, hnames⟩ := compile_accepts_grammar node
  exact ⟨haccepts.1 ⟨e, he⟩, he, hnames e he⟩

end Expr

end ProbeEngine
