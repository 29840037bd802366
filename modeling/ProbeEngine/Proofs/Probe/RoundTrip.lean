import ProbeEngine.Probe.Definition
import ProbeEngine.Proofs.Json.Record

/-!
# Definitions that are written and read again

A definition that has been read from a JSON value is written as a value from which it is read
again. There are two facts about each record in it. What is written is read as the record that it
was, in whichever order the fields stand, if its numbers have sixty-four bits and if the trees of
its expressions are left as they are (`ofJson_arrange`). And a record that has been read is such
a one, as its trees and its numbers come from inside of the value (`readFrom`).
For whole definitions both together say which of them can be read (`exists_ofJson_iff`), and that
those are read again (`definition_roundTrips`).
-/

namespace ProbeEngine

open Json

variable {P : Json → Prop} {arrange : Json → Json} {j : Json}

/-! ## Expressions -/

namespace SourceExpression

variable {e : SourceExpression}

/-- The tree of an expression that has been read is inside of the value. -/
theorem readFrom (hP : Inherited P) (hj : P j) (h : ofJson j = .ok e) : P e.node := by
  refine RecordShape.decode_induction (P := fun e => P e.node) ?_ hP.null h
  intro e name x e' hx he hread
  unfold withField at hread
  split at hread
  · obtain ⟨text, -, heq⟩ := bind_eq_ok_iff.1 hread
    cases heq
    exact he
  · cases hread
    exact hP.child hj hx
  · cases hread
    exact he

/-- The expression of which the fields with some names have been read. -/
def known (e : SourceExpression) (seen : List String) : SourceExpression where
  text := pick seen "dsl" e.text ""
  node := pick seen "json" e.node .null

theorem ofJson_arrange (harrange : Arranges arrange) (hnode : arrange e.node = e.node) :
    ofJson (arrange e.toJson) = .ok e := by
  refine RecordShape.decode_arrange harrange e.known (.refl _) (by decide)
    (fun _ hname => hname) ?read ?all
  case read =>
    intro f hf seen
    rcases List.mem_pair.1 hf with rfl | rfl
    · rw [harrange.string]
      simp [withField, known, readText]
    · rw [hnode]
      simp [withField, known]
  case all =>
    intro seen hseen
    simp only [List.forall_mem_cons] at hseen
    obtain ⟨htext, hnode, -⟩ := hseen
    rw [known, pick_of_mem htext, pick_of_mem hnode]

theorem holdsNumbers_toJson (hnode : e.node.HoldsNumbers) : e.toJson.HoldsNumbers := by
  simp [toJson, hnode]

end SourceExpression

/-! ## Segments -/

namespace Segment

variable {s : Segment}

/-- The tree of an expression, if a segment is one, has some property. -/
def ReadFrom (P : Json → Prop) : Segment → Prop
  | .literal _ => True
  | .expression e => P e.node

theorem readFrom (hP : Inherited P) (hj : P j) (h : ofJson j = .ok s) : s.ReadFrom P := by
  rw [ofJson] at h
  split at h
  · cases h
    trivial
  · rename_i e he
    cases h
    exact SourceExpression.readFrom hP hj he
  · cases h

/-- An expression is not taken for literal text, as it has no field with one. -/
theorem literalText?_arrange (harrange : Arranges arrange) (e : SourceExpression) :
    literalText? (arrange e.toJson) = none := by
  have hnames : ([("dsl", .string e.text), ("json", e.node)].map (·.1)).Nodup := by simp
  obtain ⟨gs, hgs, hperm⟩ := harrange.object hnames
  have hnone : (gs.filter fun f => f.1 == "str") = [] := by
    refine List.filter_eq_nil_iff.2 fun g hg => ?_
    rcases List.mem_pair.1 (hperm.subset hg) with rfl | rfl <;> simp
  rw [SourceExpression.toJson, hgs, literalText?, hnone]

theorem ofJson_arrange (harrange : Arranges arrange) (hs : s.ReadFrom fun x => arrange x = x) :
    ofJson (arrange s.toJson) = .ok s := by
  cases s with
  | literal text =>
    have hnames : ([("str", Json.string text)].map (·.1)).Nodup := List.nodup_singleton _
    obtain ⟨gs, hgs, hperm⟩ := harrange.object hnames
    rw [toJson, hgs, List.perm_singleton.1 hperm]
    simp only [harrange.string]
    rfl
  | expression e =>
    rw [toJson, ofJson, literalText?_arrange harrange, SourceExpression.ofJson_arrange harrange hs]

theorem holdsNumbers_toJson (hs : s.ReadFrom HoldsNumbers) : s.toJson.HoldsNumbers := by
  cases s with
  | literal text => simp [toJson]
  | expression e => exact SourceExpression.holdsNumbers_toJson hs

end Segment

/-! ## Locations -/

namespace ProbeLocation

variable {l : ProbeLocation}

/-- The location of which the fields with some names have been read. -/
def known (l : ProbeLocation) (seen : List String) : ProbeLocation where
  typeName := pick seen "typeName" l.typeName none
  methodName := pick seen "methodName" l.methodName none
  sourceFile := pick seen "sourceFile" l.sourceFile none
  lines := pick seen "lines" l.lines none

theorem readLines (harrange : Arranges arrange) (lines : List String) :
    readOptional (readList readText) (arrange (.array (lines.map .string))) =
      .ok (some lines) := by
  rw [harrange.array, List.map_map]
  refine readOptional_of_ne_null nofun (readList_map fun line _ => ?_)
  rw [Function.comp, harrange.string]
  rfl

theorem ofJson_arrange (harrange : Arranges arrange) (l : ProbeLocation) :
    ofJson (arrange l.toJson) = .ok l := by
  refine RecordShape.decode_arrange harrange l.known ?names (by decide) nofun ?read ?all
  case names =>
    simp only [List.map_append]
    exact (((names_optionalField_sublist _ _).append (names_optionalField_sublist _ _)).append
      (names_optionalField_sublist _ _)).append (names_optionalField_sublist _ _)
  case read =>
    simp only [List.forall_mem_append]
    refine ⟨⟨⟨?typeName, ?methodName⟩, ?sourceFile⟩, ?lines⟩
    case lines =>
      intro f hf seen
      obtain ⟨lines, hlines, rfl⟩ := exists_of_mem_optionalField hf
      simp [withField, known, readLines harrange, hlines]
    all_goals
      intro f hf seen
      obtain ⟨text, htext, rfl⟩ := exists_of_mem_optionalField hf
      rw [harrange.string]
      simp [withField, known, readOptional, readText, htext, Except.map]
  case all =>
    intro seen hseen
    simp only [List.forall_mem_append] at hseen
    obtain ⟨⟨⟨htype, hmethod⟩, hfile⟩, hlines⟩ := hseen
    rw [known, pick_optional htype, pick_optional hmethod, pick_optional hfile,
      pick_optional hlines]

theorem holdsNumbers_toJson (l : ProbeLocation) : l.toJson.HoldsNumbers := by
  have htext : ∀ (name : String) (o : Option String),
      ∀ f ∈ optionalField name (o.map .string), f.2.HoldsNumbers := fun name o =>
    holdsNumbers_optionalField fun s _ => holdsNumbers_string s
  rw [toJson, holdsNumbers_object_iff]
  simp only [List.forall_mem_append]
  refine ⟨⟨⟨htext _ _, htext _ _⟩, htext _ _⟩, holdsNumbers_optionalField fun lines _ => ?_⟩
  simp

end ProbeLocation

/-! ## Capture limits -/

namespace CaptureOverrides

variable {o : CaptureOverrides}

/-- Limits of sixty-four bits. -/
structure Fits (o : CaptureOverrides) : Prop where
  maxReferenceDepth : ∀ n ∈ o.maxReferenceDepth, n ≤ UInt64.size - 1
  maxCollectionSize : ∀ n ∈ o.maxCollectionSize, n ≤ UInt64.size - 1
  maxFieldCount : ∀ n ∈ o.maxFieldCount, n ≤ UInt64.size - 1
  maxLength : ∀ n ∈ o.maxLength, n ≤ UInt64.size - 1

theorem fits_of_ofJson (h : ofJson j = .ok o) : o.Fits := by
  have hstart : Fits {} := by constructor <;> nofun
  refine RecordShape.decode_induction ?_ hstart h
  intro o name x o' _ ho hread
  have hsize : ∀ {limit}, readOptional readSize x = .ok limit → ∀ n ∈ limit, n ≤ UInt64.size - 1 :=
    fun hlimit n hn => le_of_readNatural (of_readOptional hlimit n hn)
  simp only [withField] at hread
  split at hread
  case h_5 =>
    cases hread
    exact ho
  all_goals
    obtain ⟨limit, hlimit, heq⟩ := bind_eq_ok_iff.1 hread
    cases heq
  case h_1 => exact { ho with maxReferenceDepth := hsize hlimit }
  case h_2 => exact { ho with maxCollectionSize := hsize hlimit }
  case h_3 => exact { ho with maxFieldCount := hsize hlimit }
  case h_4 => exact { ho with maxLength := hsize hlimit }

theorem toJson_eq (o : CaptureOverrides) : o.toJson = .object (
    optionalField "maxReferenceDepth" (o.maxReferenceDepth.map fun n : Nat => .integer n) ++
    optionalField "maxCollectionSize" (o.maxCollectionSize.map fun n : Nat => .integer n) ++
    optionalField "maxFieldCount" (o.maxFieldCount.map fun n : Nat => .integer n) ++
    optionalField "maxLength" (o.maxLength.map fun n : Nat => .integer n)) := by
  obtain ⟨_ | _, _ | _, _ | _, _ | _⟩ := o <;> rfl

/-- The limits of which the fields with some names have been read. -/
def known (o : CaptureOverrides) (seen : List String) : CaptureOverrides where
  maxReferenceDepth := pick seen "maxReferenceDepth" o.maxReferenceDepth none
  maxCollectionSize := pick seen "maxCollectionSize" o.maxCollectionSize none
  maxFieldCount := pick seen "maxFieldCount" o.maxFieldCount none
  maxLength := pick seen "maxLength" o.maxLength none

theorem readSize_arrange (harrange : Arranges arrange) {n : Nat} (hn : n ≤ UInt64.size - 1) :
    readOptional readSize (arrange (.integer n)) = .ok (some n) := by
  rw [harrange.integer]
  exact readOptional_of_ne_null nofun (readNatural_natCast hn)

theorem ofJson_arrange (harrange : Arranges arrange) (ho : o.Fits) :
    ofJson (arrange o.toJson) = .ok o := by
  rw [toJson_eq]
  refine RecordShape.decode_arrange harrange o.known ?names (by decide) nofun ?read ?all
  case names =>
    simp only [List.map_append]
    exact (((names_optionalField_sublist _ _).append (names_optionalField_sublist _ _)).append
      (names_optionalField_sublist _ _)).append (names_optionalField_sublist _ _)
  case read =>
    simp only [List.forall_mem_append]
    refine ⟨⟨⟨?depth, ?collection⟩, ?fields⟩, ?length⟩
    all_goals
      intro f hf seen
      obtain ⟨n, hn, rfl⟩ := exists_of_mem_optionalField hf
    case depth =>
      simp [withField, known, readSize_arrange harrange (ho.maxReferenceDepth n hn), hn]
    case collection =>
      simp [withField, known, readSize_arrange harrange (ho.maxCollectionSize n hn), hn]
    case fields => simp [withField, known, readSize_arrange harrange (ho.maxFieldCount n hn), hn]
    case length => simp [withField, known, readSize_arrange harrange (ho.maxLength n hn), hn]
  case all =>
    intro seen hseen
    simp only [List.forall_mem_append] at hseen
    obtain ⟨⟨⟨hdepth, hcollection⟩, hfields⟩, hlength⟩ := hseen
    rw [known, pick_optional hdepth, pick_optional hcollection, pick_optional hfields,
      pick_optional hlength]

theorem holdsNumbers_toJson (ho : o.Fits) : o.toJson.HoldsNumbers := by
  rw [toJson_eq, holdsNumbers_object_iff]
  simp only [List.forall_mem_append]
  refine ⟨⟨⟨?depth, ?collection⟩, ?fields⟩, ?length⟩
  all_goals refine holdsNumbers_optionalField fun n hn => holdsNumbers_natCast ?_
  case depth => exact ho.maxReferenceDepth n hn
  case collection => exact ho.maxCollectionSize n hn
  case fields => exact ho.maxFieldCount n hn
  case length => exact ho.maxLength n hn

end CaptureOverrides

/-! ## Rates -/

namespace SamplingOverride

variable {o : SamplingOverride}

/-- The rate is the double of a number with some property. -/
def ReadFrom (P : Json → Prop) (o : SamplingOverride) : Prop :=
  ∀ x ∈ o.snapshotsPerSecond, ∃ j, P j ∧ j.number? = some x

theorem readFrom (hP : Inherited P) (hj : P j) (h : ofJson j = .ok o) : o.ReadFrom P := by
  have hstart : ReadFrom P {} := fun x hx => absurd hx (Option.not_mem_none x)
  refine RecordShape.decode_induction ?_ hstart h
  intro o name x o' hx ho hread
  unfold withField at hread
  split at hread
  · obtain ⟨rate, hrate, heq⟩ := bind_eq_ok_iff.1 hread
    cases heq
    exact fun y hy => ⟨x, hP.child hj hx, readNumber_eq_ok_iff.1 (of_readOptional hrate y hy)⟩
  · cases hread
    exact ho

/-- The rate of which the fields with some names have been read. -/
def known (o : SamplingOverride) (seen : List String) : SamplingOverride where
  snapshotsPerSecond := pick seen "snapshotsPerSecond" o.snapshotsPerSecond none

theorem ofJson_arrange (harrange : Arranges arrange) (o : SamplingOverride) :
    ofJson (arrange o.toJson) = .ok o := by
  refine RecordShape.decode_arrange harrange o.known (names_optionalField_sublist _ _) (by decide)
    nofun ?read ?all
  case read =>
    intro f hf seen
    obtain ⟨x, hx, rfl⟩ := exists_of_mem_optionalField hf
    rw [harrange.float]
    simp [withField, known, readOptional, readNumber, number?, hx, Except.map]
  case all =>
    intro seen hseen
    rw [known, pick_optional hseen]

theorem holdsNumbers_toJson (ho : o.ReadFrom HoldsNumbers) : o.toJson.HoldsNumbers := by
  refine holdsNumbers_object_iff.2 (holdsNumbers_optionalField fun x hx => ?_)
  obtain ⟨j, hj, hnumber⟩ := ho x hx
  exact .node ((hj j .self).number? hnumber) nofun

end SamplingOverride

/-! ## Times of evaluation -/

theorem EvaluateAt.ofJson_arrange (harrange : Arranges arrange) (t : EvaluateAt) :
    EvaluateAt.ofJson (arrange (.string t.word)) = .ok t := by
  rw [harrange.string]
  cases t <;> rfl

/-! ## Definitions -/

namespace ProbeDefinition

variable {d : ProbeDefinition}

/-- What a definition holds has been read: its numbers have sixty-four bits, and its trees and
its rate come from values with some property. -/
structure ReadFrom (P : Json → Prop) (d : ProbeDefinition) : Prop where
  version : d.version ≤ UInt64.size - 1
  segments : ∀ s ∈ d.segments, s.ReadFrom P
  condition : ∀ e ∈ d.condition, P e.node
  capture : ∀ o ∈ d.capture, o.Fits
  sampling : ∀ o ∈ d.sampling, o.ReadFrom P

theorem readFrom (hP : Inherited P) (hj : P j) (h : ofJson j = .ok d) : d.ReadFrom P := by
  have hstart : ReadFrom P { id := "" } := by constructor <;> simp
  refine RecordShape.decode_induction ?_ hstart h
  intro d name x d' hx hd hread
  have hx := hP.child hj hx
  simp only [withField] at hread
  split at hread
  case h_12 =>
    cases hread
    exact hd
  all_goals
    obtain ⟨value, hvalue, heq⟩ := bind_eq_ok_iff.1 hread
    cases heq
  case h_2 => exact { hd with version := le_of_readNatural hvalue }
  case h_6 =>
    refine { hd with segments := fun s hs => ?_ }
    obtain ⟨y, hy, hs⟩ := of_readList hvalue s hs
    exact Segment.readFrom hP (hP.child hx hy) hs
  case h_7 =>
    exact { hd with
      condition := fun e he => SourceExpression.readFrom hP hx (of_readOptional hvalue e he) }
  case h_9 =>
    exact { hd with
      capture := fun o ho => CaptureOverrides.fits_of_ofJson (of_readOptional hvalue o ho) }
  case h_10 =>
    exact { hd with
      sampling := fun o ho => SamplingOverride.readFrom hP hx (of_readOptional hvalue o ho) }
  -- the other fields hold nothing of the kind
  all_goals exact { hd with }

/-- The definition of which the fields with some names have been read. -/
def known (d : ProbeDefinition) (seen : List String) : ProbeDefinition where
  id := pick seen "id" d.id ""
  version := pick seen "version" d.version 0
  type := pick seen "type" d.type "LOG_PROBE"
  location := pick seen "where" d.location {}
  template := pick seen "template" d.template ""
  segments := pick seen "segments" d.segments []
  condition := pick seen "when" d.condition none
  capturesSnapshot := pick seen "captureSnapshot" d.capturesSnapshot false
  capture := pick seen "capture" d.capture none
  sampling := pick seen "sampling" d.sampling none
  evaluateAt := pick seen "evaluateAt" d.evaluateAt .exit

theorem readSegments (harrange : Arranges arrange)
    (hd : d.ReadFrom fun x => arrange x = x) :
    readList Segment.ofJson (arrange (.array (d.segments.map Segment.toJson))) =
      .ok d.segments := by
  rw [harrange.array, List.map_map]
  exact readList_map fun s hs => Segment.ofJson_arrange harrange (hd.segments s hs)

/-- **What is written is read as the definition that it was, with its fields in any order.** -/
theorem ofJson_arrange (harrange : Arranges arrange) (hd : d.ReadFrom fun x => arrange x = x) :
    ofJson (arrange d.toJson) = .ok d := by
  refine RecordShape.decode_arrange harrange d.known ?names (by decide) ?required ?read ?all
  case names =>
    simp only [List.map_append]
    exact (((((List.Sublist.refl _).append (names_optionalField_sublist "when" _)).append
      (.refl _)).append (names_optionalField_sublist "capture" _)).append
      (names_optionalField_sublist "sampling" _)).append (.refl _)
  case required =>
    intro name hname
    simp [List.mem_singleton.1 hname]
  case read =>
    simp only [List.forall_mem_append, List.forall_mem_cons]
    refine ⟨⟨⟨⟨⟨⟨?id, ?version, ?type, ?location, ?template, ?segments, nofun⟩, ?condition⟩,
      ?captures, nofun⟩, ?capture⟩, ?sampling⟩, ?time, nofun⟩
    case id | type | template =>
      intro seen
      rw [harrange.string]
      simp [withField, known, readText]
    case version =>
      intro seen
      have hread : readNatural64 (.integer d.version) = .ok d.version :=
        readNatural_natCast hd.version
      rw [harrange.integer]
      simp [withField, known, hread]
    case location =>
      intro seen
      simp [withField, known, ProbeLocation.ofJson_arrange harrange]
    case segments =>
      intro seen
      simp [withField, known, readSegments harrange hd]
    case condition =>
      intro f hf seen
      obtain ⟨e, he, rfl⟩ := exists_of_mem_optionalField hf
      have hread := RecordShape.readOptional_decode
        (SourceExpression.ofJson_arrange harrange (hd.condition e he))
      simp [withField, known, SourceExpression.ofJson, hread, he]
    case captures =>
      intro seen
      rw [harrange.bool]
      simp [withField, known, readBool]
    case capture =>
      intro f hf seen
      obtain ⟨o, ho, rfl⟩ := exists_of_mem_optionalField hf
      have hread := RecordShape.readOptional_decode
        (CaptureOverrides.ofJson_arrange harrange (hd.capture o ho))
      simp [withField, known, CaptureOverrides.ofJson, hread, ho]
    case sampling =>
      intro f hf seen
      obtain ⟨o, ho, rfl⟩ := exists_of_mem_optionalField hf
      have hread := RecordShape.readOptional_decode (SamplingOverride.ofJson_arrange harrange o)
      simp [withField, known, SamplingOverride.ofJson, hread, ho]
    case time =>
      intro seen
      simp [withField, known, EvaluateAt.ofJson_arrange harrange]
  case all =>
    intro seen hseen
    simp only [List.forall_mem_append, List.forall_mem_cons] at hseen
    obtain ⟨⟨⟨⟨⟨⟨hid, hversion, htype, hlocation, htemplate, hsegments, -⟩, hcondition⟩,
      ⟨hcaptures, -⟩⟩, hcapture⟩, hsampling⟩, ⟨htime, -⟩⟩ := hseen
    rw [known, pick_of_mem hid, pick_of_mem hversion, pick_of_mem htype, pick_of_mem hlocation,
      pick_of_mem htemplate, pick_of_mem hsegments, pick_optional hcondition,
      pick_of_mem hcaptures, pick_optional hcapture, pick_optional hsampling, pick_of_mem htime]

/-- **The definitions that can be read are those whose numbers have sixty-four bits.** -/
theorem exists_ofJson_iff :
    (∃ j, ofJson j = .ok d) ↔ d.version ≤ UInt64.size - 1 ∧ ∀ o ∈ d.capture, o.Fits := by
  constructor
  · rintro ⟨j, h⟩
    have hd : d.ReadFrom fun _ => True := readFrom ⟨trivial, fun _ _ => trivial⟩ trivial h
    exact ⟨hd.version, hd.capture⟩
  · rintro ⟨hversion, hcapture⟩
    refine ⟨d.toJson, ofJson_arrange arranges_id ?_⟩
    refine { version := hversion, capture := hcapture, segments := fun s _ => ?_
             condition := fun _ _ => rfl, sampling := fun _ _ x _ => ⟨.float x, rfl, rfl⟩ }
    cases s with
    | literal text => trivial
    | expression e => exact rfl

theorem holdsNumbers_toJson (hd : d.ReadFrom HoldsNumbers) : d.toJson.HoldsNumbers := by
  have hsegments : ∀ s ∈ d.segments, s.toJson.HoldsNumbers := fun s hs =>
    Segment.holdsNumbers_toJson (hd.segments s hs)
  rw [toJson, holdsNumbers_object_iff]
  simp only [List.forall_mem_append]
  refine ⟨⟨⟨⟨⟨?fields, ?condition⟩, by simp⟩, ?capture⟩, ?sampling⟩, by simp⟩
  case fields =>
    have hversion := holdsNumbers_natCast hd.version
    simpa [ProbeLocation.holdsNumbers_toJson, hversion, -holdsNumbers_integer_iff] using hsegments
  case condition =>
    exact holdsNumbers_optionalField fun e he =>
      SourceExpression.holdsNumbers_toJson (hd.condition e he)
  case capture =>
    exact holdsNumbers_optionalField fun o ho =>
      CaptureOverrides.holdsNumbers_toJson (hd.capture o ho)
  case sampling =>
    exact holdsNumbers_optionalField fun o ho =>
      SamplingOverride.holdsNumbers_toJson (hd.sampling o ho)

/-! ## Main result -/

/-- **A definition that has been read survives a round trip.** However it was given, it is read
again from what is written, with the fields in the order in which they are written. If the value
was one that a program holds, what is written is held as another one, with its fields in the order
of their names, and the definition is read again from that one, too. -/
theorem definition_roundTrips (h : ofJson j = .ok d) :
    ofJson d.toJson = .ok d ∧
      (j.IsValue → d.toJson.canonical.IsValue ∧ ofJson d.toJson.canonical = .ok d) := by
  refine ⟨?written, fun hj => ⟨?held, ?sorted⟩⟩
  case written => exact ofJson_arrange arranges_id (readFrom ⟨rfl, fun _ _ => rfl⟩ rfl h)
  case held =>
    exact isValue_canonical (holdsNumbers_toJson (readFrom inherited_holdsNumbers hj.numbers h))
  case sorted =>
    exact ofJson_arrange arranges_canonical (readFrom inherited_canonical hj.canonical_eq h)

/-- A definition given as an array, and in it a location as an array of which the end is missing,
literal text, an expression as an array, null, limits without any, a whole number as a rate, and
a choice as an object. -/
theorem definition_roundTrips_of_array :
    let node : Json := .object [("ref", .string "x")]
    let j : Json := .array [.string "p", .integer 3, .string "LOG_PROBE",
      .array [.null, .string "run"], .string "x is \x7bx\x7d",
      .array [.object [("str", .string "x is ")], .array [.string "x", node]], .null, .bool true,
      .object [], .object [("snapshotsPerSecond", .integer 5)], .object [("ENTRY", .null)]]
    let d : ProbeDefinition :=
      { id := "p", version := 3, location := { methodName := some "run" }
        template := "x is \x7bx\x7d", segments := [.literal "x is ", .expression ⟨"x", node⟩]
        capturesSnapshot := true, capture := some {}
        sampling := some ⟨some (Binary64.ofInt 5)⟩, evaluateAt := .entry }
    ofJson j = .ok d ∧ j.IsValue ∧ ofJson d.toJson = .ok d ∧
      d.toJson.canonical.IsValue ∧ ofJson d.toJson.canonical = .ok d := by
  intro node j d
  have h : ofJson j = .ok d := by
    rfl
  have hj : j.IsValue := ⟨rfl, by simp [j, node]⟩
  obtain ⟨hwritten, hheld⟩ := definition_roundTrips h
  exact ⟨h, hj, hwritten, hheld hj⟩

end ProbeDefinition

end ProbeEngine
