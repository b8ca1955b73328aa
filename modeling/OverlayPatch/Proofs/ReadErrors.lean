import OverlayPatch.Proofs.RoundTrip

/-!
# Why a well-formed document is refused

Every part of a document has a default or a conversion of its own: an overlay without a name or a
start, a write without a value, an overlay without bytes to append, numbers and base64 that cannot
be read. A document that is well formed is read, or refused for what it holds
(`ReadError.Refuses`), with one exception: the location of a write has no default, and where it is
missing there is no text that could be refused.

`read_wellFormed` says that this is the only exception, and when it is met: if the first thing
that cannot be read, in the order of reading, is such a write. The steps of reading are followed
one by one, each with the errors it may have (`OnlyErrors`).
-/

namespace OverlayPatch

set_option autoImplicit false

open Markup

namespace Document

/-! ## Kinds of errors -/

/-- What the document holds is refused: its root, a number or some bytes. -/
def ReadError.Refuses : ReadError → Prop
  | .otherRoot _ | .number _ | .bytes _ => True
  | .malformed | .encoding _ | .noLocation => False

/-- What can only refuse does not miss a location. -/
theorem bind_eq_noLocation_iff {α β : Type} {first : Except ReadError α}
    {next : α → Except ReadError β} (rest : ∀ a, OnlyErrors ReadError.Refuses (next a)) :
    (first >>= next) = .error .noLocation ↔ first = .error .noLocation := by
  cases first with
  | error e =>
      constructor
      · intro failed
        cases failed
        rfl
      · intro failed
        cases failed
        rfl
  | ok a => exact ⟨fun failed => (rest a _ failed).elim, fun failed => (nomatch failed)⟩

/-! ## Elements -/

variable {element root : Markup.Element}

theorem readNumber_refuses (text : String) : OnlyErrors ReadError.Refuses (readNumber text) := by
  unfold readNumber
  cases Number.readInt .decimal text with
  | error error => exact onlyErrors_error trivial
  | ok n => exact onlyErrors_ok n

theorem readBytes_refuses (text : String) : OnlyErrors ReadError.Refuses (readBytes text) := by
  unfold readBytes
  cases Bytes.Base64.decode text with
  | error error => exact onlyErrors_error trivial
  | ok bytes => exact onlyErrors_ok bytes

theorem readWrite_refuses (located : element.get? "location" ≠ none) :
    OnlyErrors ReadError.Refuses (readWrite element) := by
  unfold readWrite
  obtain ⟨text, found⟩ := Option.ne_none_iff_exists'.mp located
  rw [found]
  refine onlyErrors_bind (readNumber_refuses text) fun location => ?_
  exact onlyErrors_bind (readBytes_refuses _) fun value => onlyErrors_ok _

theorem readWrite_eq_noLocation_iff :
    readWrite element = .error .noLocation ↔ element.get? "location" = none := by
  constructor
  · intro failed
    by_contra located
    exact readWrite_refuses located _ failed
  · intro missing
    unfold readWrite
    rw [missing]
    rfl

/-- Behind the writes of an overlay everything has a default, so nothing but a refusal is left. -/
theorem readPatch_eq (element : Markup.Element) :
    ∃ rest : List Write → Except ReadError Patch,
      readPatch element = ((element.named "patch").mapM readWrite >>= rest) ∧
      ∀ writes, OnlyErrors ReadError.Refuses (rest writes) := by
  refine ⟨_, rfl, fun writes => ?_⟩
  dsimp only
  split
  · refine onlyErrors_bind (readBytes_refuses _) fun blob => ?_
    exact onlyErrors_bind (readNumber_refuses _) fun base => onlyErrors_ok _
  · refine onlyErrors_bind (onlyErrors_ok _) fun blob => ?_
    exact onlyErrors_bind (readNumber_refuses _) fun base => onlyErrors_ok _

/-- The first write of an overlay that cannot be read has no location. -/
def Unlocated (overlay : Markup.Element) : Prop :=
  ∃ before write after, overlay.named "patch" = before ++ write :: after ∧
    (∀ earlier ∈ before, ∃ read, readWrite earlier = .ok read) ∧ write.get? "location" = none

theorem readPatch_eq_noLocation_iff :
    readPatch element = .error .noLocation ↔ Unlocated element := by
  obtain ⟨rest, shape, refuses⟩ := readPatch_eq element
  rw [shape, bind_eq_noLocation_iff refuses, mapM_eq_error_iff]
  simp only [readWrite_eq_noLocation_iff, Unlocated]

theorem readPatch_errors (element : Markup.Element) :
    OnlyErrors (fun error => error.Refuses ∨ error = .noLocation) (readPatch element) := by
  obtain ⟨rest, shape, refuses⟩ := readPatch_eq element
  rw [shape]
  refine onlyErrors_bind (onlyErrors_mapM fun write _ => ?_) fun writes error failed =>
    .inl (refuses writes error failed)
  by_cases located : write.get? "location" = none
  · rw [readWrite_eq_noLocation_iff.mpr located]
    exact onlyErrors_error (.inr rfl)
  · exact fun error failed => .inl (readWrite_refuses located error failed)

/-! ## Documents -/

/-- The first overlay that cannot be read fails at a write without a location. -/
def MissesLocation (root : Markup.Element) : Prop :=
  root.tag = "overlays" ∧
    ∃ before overlay after, root.named "overlay" = before ++ overlay :: after ∧
      (∀ earlier ∈ before, ∃ patch, readPatch earlier = .ok patch) ∧ Unlocated overlay

theorem ofElement_of_otherRoot (other : root.tag ≠ "overlays") :
    ofElement root = .error (.otherRoot root.tag) := by
  unfold ofElement
  rw [if_pos other]
  rfl

theorem ofElement_of_root (overlays : root.tag = "overlays") :
    ofElement root = ((root.named "overlay").mapM readPatch >>= fun patches => .ok ⟨patches⟩) := by
  unfold ofElement
  rw [if_neg (not_not.mpr overlays)]
  rfl

/-- A document fails for a location just if the first overlay that cannot be read does. -/
theorem ofElement_eq_noLocation_iff :
    ofElement root = .error .noLocation ↔ MissesLocation root := by
  by_cases overlays : root.tag = "overlays"
  · rw [ofElement_of_root overlays,
      bind_eq_noLocation_iff (fun patches => onlyErrors_ok _), mapM_eq_error_iff]
    simp only [readPatch_eq_noLocation_iff, MissesLocation, overlays, true_and]
  · rw [ofElement_of_otherRoot overlays]
    exact ⟨fun failed => (nomatch failed), fun misses => absurd misses.1 overlays⟩

/-- A document fails by what it holds, or for a location. -/
theorem ofElement_errors (root : Markup.Element) :
    OnlyErrors (fun error => error.Refuses ∨ error = .noLocation) (ofElement root) := by
  by_cases overlays : root.tag = "overlays"
  · rw [ofElement_of_root overlays]
    exact onlyErrors_bind (onlyErrors_mapM fun overlay _ => readPatch_errors overlay) fun patches =>
      onlyErrors_ok _
  · rw [ofElement_of_otherRoot overlays]
    exact onlyErrors_error (.inl trivial)

/-- The document is read, or what it holds is refused. -/
def Settled (result : Except ReadError Document) : Prop :=
  (∃ document, result = .ok document) ∨ ∃ error, result = .error error ∧ error.Refuses

/-- How a document answers for its tree: it is settled, but for a location that is missing. -/
structure Answers (root : Markup.Element) (result : Except ReadError Document) : Prop where
  settled : Settled result ↔ ¬ MissesLocation root
  missing : result = .error .noLocation ↔ MissesLocation root

theorem settled_ofElement_iff : Settled (ofElement root) ↔ ofElement root ≠ .error .noLocation := by
  cases result : ofElement root with
  | ok document => exact ⟨fun _ failed => (nomatch failed), fun _ => .inl ⟨document, rfl⟩⟩
  | error error =>
      constructor
      · rintro (⟨document, read⟩ | ⟨other, failed, refuses⟩) missing
        · cases read
        · cases failed
          cases missing
          exact refuses
      · intro located
        rcases ofElement_errors root error result with refuses | missing
        · exact .inr ⟨error, rfl, refuses⟩
        · exact absurd (congrArg Except.error missing) located

theorem answers_ofElement (root : Markup.Element) : Answers root (ofElement root) where
  settled := settled_ofElement_iff.trans (not_congr ofElement_eq_noLocation_iff)
  missing := ofElement_eq_noLocation_iff

theorem located_of_all
    (located : ∀ overlay ∈ root.named "overlay", ∀ write ∈ overlay.named "patch",
      write.get? "location" ≠ none) : ¬ MissesLocation root := by
  rintro ⟨_, before, overlay, after, overlays, _, front, write, back, writes, _, missing⟩
  refine located overlay ?_ write ?_ missing
  · simp [overlays]
  · simp [writes]

/-! ## Texts and bytes -/

theorem read_of_ofText {text : String} (tree : Markup.Element.ofText text = .ok root) :
    read text = ofElement root := by
  unfold read
  rw [tree]
  rfl

theorem ofBytes_of_ofBytes {bytes : List UInt8} (tree : Markup.Element.ofBytes bytes = .ok root) :
    Document.ofBytes bytes = ofElement root := by
  unfold Document.ofBytes
  rw [tree]
  rfl

theorem read_of_malformed {text : String}
    (malformed : Markup.Element.ofText text = .error .malformed) :
    read text = .error .malformed := by
  unfold read
  rw [malformed]
  rfl

/-- No declaration of an encoding counts in what is labelled from outside. -/
theorem opening_labelled (bytes : List UInt8) :
    (∃ found, Markup.Element.opening true bytes = .ok found) ∨
      Markup.Element.opening true bytes = .error .malformed := by
  unfold Markup.Element.opening
  dsimp only
  cases Markup.Header.read? (Markup.Encoding.asciiLead _ _) with
  | none => exact .inr rfl
  | some found =>
      obtain ⟨⟨encoding, alone⟩, size⟩ := found
      cases encoding with
      | none => exact .inl ⟨_, rfl⟩
      | some name => exact .inl ⟨_, rfl⟩

/-- A text is a tree, or it is malformed. -/
theorem ofText_cases (text : String) :
    (∃ root, Markup.Element.ofText text = .ok root) ∨
      Markup.Element.ofText text = .error .malformed := by
  unfold Markup.Element.ofText Markup.Element.readBytes
  rcases opening_labelled (Text.Utf8.encode text) with ⟨⟨header, encoding, rest⟩, opened⟩ | opened
  · rw [opened]
    cases tree : (encoding.decode? rest).bind
      (Markup.Element.ofChars? encoding.alphabet header.alone) with
    | some root => exact .inl ⟨root, by simp [bind, Except.bind, tree]⟩
    | none => exact .inr (by simp [bind, Except.bind, tree])
  · rw [opened]
    exact .inr rfl

/-- A document that is well formed is read, or refused for what it holds, unless the first thing
that cannot be read is a write without a location. Nothing of the kind is met where every write
has one, and a text that is not well formed is malformed. -/
theorem read_wellFormed (root : Markup.Element) (text : String) (bytes : List UInt8) :
    (Markup.Element.ofText text = .ok root → Answers root (read text)) ∧
    (Markup.Element.ofBytes bytes = .ok root → Answers root (Document.ofBytes bytes)) ∧
    ((∀ overlay ∈ root.named "overlay", ∀ write ∈ overlay.named "patch",
      write.get? "location" ≠ none) → ¬ MissesLocation root) ∧
    ((∃ tree, Markup.Element.ofText text = .ok tree) ∨ read text = .error .malformed) := by
  refine ⟨fun tree => ?_, fun tree => ?_, located_of_all,
    (ofText_cases text).imp_right read_of_malformed⟩
  · rw [read_of_ofText tree]
    exact answers_ofElement root
  · rw [ofBytes_of_ofBytes tree]
    exact answers_ofElement root

/-- A document of one overlay with one write, which has these attributes. -/
def oneWrite (pairs : List (String × String)) : List Char :=
  Reader.tagChars "overlays" [] false ++
    ((Reader.tagChars "overlay" [] false ++
        (Reader.tagChars "patch" pairs true ++ Reader.endTagChars "overlay")) ++
      Reader.endTagChars "overlays")

def oneWriteElement (pairs : List (String × String)) : Markup.Element :=
  .ofParts "overlays" [] [.child (.ofParts "overlay" [] [.child (.ofParts "patch" pairs [])])]

def oneWriteText (pairs : List (String × String)) : String :=
  opening ++ String.ofList (oneWrite pairs ++ ['\n'])

theorem readBytes_oneWriteText {pairs : List (String × String)} (tagged : Tagged "patch" pairs)
    (labelled : Bool) :
    Markup.Element.readBytes labelled (Text.Utf8.encode (oneWriteText pairs)) =
      .ok (oneWriteElement pairs) := by
  have is : IsElement .listed (oneWrite pairs) (oneWriteElement pairs) :=
    .around (tagged_bare (by decide))
      (IsElement.around (tagged_bare (by decide)) (IsElement.closed tagged).isContent).isContent
  refine readBytes_opening labelled _ ?_
  rw [String.toList_ofList]
  exact Markup.Element.ofChars?_of_isElement is (by decide) false

def hexWrite : List (String × String) := [("location", "0x12")]

theorem tagged_hexWrite : Tagged "patch" hexWrite where
  plain := by decide
  writable := by
    intro pair member
    rw [List.mem_singleton.mp member]
    exact ⟨by decide, List.all_eq_true.mp (by decide)⟩
  distinct := by decide
  unbound := by decide

/-- A location that is no decimal number is refused as one. -/
theorem read_wellFormed_hexWrite :
    Markup.Element.ofText (oneWriteText hexWrite) = .ok (oneWriteElement hexWrite) ∧
      Settled (read (oneWriteText hexWrite)) ∧
      Settled (Document.ofBytes (Text.Utf8.encode (oneWriteText hexWrite))) := by
  have tree := readBytes_oneWriteText tagged_hexWrite
  obtain ⟨ofText, ofBytes, all, -⟩ := read_wellFormed (oneWriteElement hexWrite)
    (oneWriteText hexWrite) (Text.Utf8.encode (oneWriteText hexWrite))
  have located : ¬ MissesLocation (oneWriteElement hexWrite) := by
    refine all fun overlay first write second => ?_
    rw [List.mem_singleton.mp first] at second
    rw [List.mem_singleton.mp second]
    decide
  exact ⟨tree true, (ofText (tree true)).settled.mpr located,
    (ofBytes (tree false)).settled.mpr located⟩

/-- A write without attributes is well formed, and it is not refused for anything that it holds. -/
theorem bareWrite_not_settled :
    oneWriteText [] = "<?xml version='1.0' encoding='utf-8'?>\n" ++
      "<overlays><overlay><patch /></overlay></overlays>\n" ∧
    Markup.Element.ofText (oneWriteText []) = .ok (oneWriteElement []) ∧
    read (oneWriteText []) = .error .noLocation ∧ ¬ Settled (read (oneWriteText [])) := by
  have tree := readBytes_oneWriteText (tagged_bare (by decide)) true
  have missing : read (oneWriteText []) = .error .noLocation := by
    rw [read_of_ofText tree]
    decide +kernel
  have unsettled : ¬ Settled (read (oneWriteText [])) := by
    rw [read_of_ofText tree] at missing ⊢
    exact fun settled => settled_ofElement_iff.mp settled missing
  refine ⟨?_, tree, missing, unsettled⟩
  decide +kernel

end Document

end OverlayPatch
