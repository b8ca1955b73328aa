import OverlayPatch.Proofs.Literals
import OverlayPatch.Proofs.Stage
import OverlayPatch.Proofs.Tree

/-!
# Documents as elements

What the parts of a document are written as, in tags and lines (`patchText`, `rootText`), and
which elements these texts are (`isElement_patch`, `isElement_root`). Reading such an element gives
the part back (`readPatch_element`, `ofElement_root`).

Addresses and bytes are written in plain characters, which need no escape; names are escaped. A
part is written if its addresses have few enough digits, and only then (`write_of_short`,
`short_of_write`).
-/

namespace OverlayPatch

set_option autoImplicit false

open Markup

/-! ## Plain characters -/

theorem plain_facts {c : Char} (plain : isPlain c = true) :
    Document.escapeChar c = [c] ∧ Reader.isText c ∧ isLegal c :=
  of_plain (p := fun c => Document.escapeChar c = [c] ∧ Reader.isText c ∧ isLegal c) plain
    (by decide)

theorem flatMap_escapeChar {cs : List Char} (plain : ∀ c ∈ cs, isPlain c = true) :
    cs.flatMap Document.escapeChar = cs := by
  induction cs with
  | nil => rfl
  | cons c cs ih =>
      rw [List.flatMap_cons, (plain_facts (plain c List.mem_cons_self)).1,
        ih fun d member => plain d (List.mem_cons_of_mem _ member)]
      rfl

namespace Document

/-! ## Numbers -/

def address (n : Int) : String :=
  String.ofList (Number.decimal n)

/-- An address that has few enough digits to be written. -/
def Short (n : Int) : Prop :=
  n.natAbs < 10 ^ Number.decimalLimit

theorem digits_le_iff (n : Int) :
    (Number.decimalDigits n.natAbs).length ≤ Number.decimalLimit ↔ Short n :=
  Nat.length_toDigits_le_iff (by decide) (by decide)

theorem writeInt_of_short {n : Int} (short : Short n) : Number.writeInt n = .ok (address n) := by
  rw [Number.writeInt, if_neg (by rw [Nat.not_lt, digits_le_iff]; exact short)]
  rfl

theorem writeInt_of_long {n : Int} (long : ¬ Short n) :
    Number.writeInt n = .error .unwritable := by
  rw [Number.writeInt, if_pos (by rw [← Nat.not_le, digits_le_iff]; exact long)]

theorem short_of_writeInt {n : Int} {text : String} (written : Number.writeInt n = .ok text) :
    Short n := by
  by_contra long
  rw [writeInt_of_long long] at written
  cases written

theorem readNumber_address {n : Int} (short : Short n) : readNumber (address n) = .ok n := by
  rw [readNumber, address, Number.readInt_decimal ((digits_le_iff n).mpr short)]
  rfl

theorem readBytes_base64 (bytes : List UInt8) : readBytes (base64 bytes) = .ok bytes := by
  rw [readBytes, base64, Bytes.Base64.decode_encode]
  rfl

/-! ## Elements -/

def line (indent : Nat) (text : List Char) : List Char :=
  List.replicate indent ' ' ++ (text ++ ['\n'])

/-- The parts that such a line adds. -/
def lineParts (indent : Nat) (element : Element) : List Part :=
  (List.replicate indent ' ').map .char ++ ([.child element] ++ ['\n'].map .char)

/-- An element on a line of its own is a part between blanks. -/
theorem isContent_line {alphabet : Alphabet} {text : List Char} {element : Element}
    (is : IsElement alphabet text element) (indent : Nat) :
    IsContent alphabet (line indent text) (lineParts indent element) := by
  have blanks : (List.replicate indent ' ').all Reader.isText := by
    rw [List.all_eq_true]
    intro c member
    rw [List.eq_of_mem_replicate member]
    rfl
  exact (IsContent.chars blanks).append (is.isContent.append (.chars rfl))

theorem filterMap_chars (cs : List Char) : (cs.map Part.char).filterMap Part.child? = [] := by
  rw [List.filterMap_map, List.filterMap_eq_nil_iff]
  exact fun _ _ => rfl

theorem filterMap_lineParts (indent : Nat) (element : Element) :
    (lineParts indent element).filterMap Part.child? = [element] := by
  rw [lineParts, List.filterMap_append, List.filterMap_append, filterMap_chars, filterMap_chars]
  rfl

theorem filterMap_lines {ι : Type} (indent : Nat) (element : ι → Element) (items : List ι) :
    (items.flatMap fun item => lineParts indent (element item)).filterMap Part.child? =
      items.map element := by
  induction items with
  | nil => rfl
  | cons item items ih =>
      rw [List.flatMap_cons, List.filterMap_append, filterMap_lineParts, ih]
      rfl

/-- Of elements that all have one name, those of a name are all or none. -/
theorem filter_tag {ι : Type} {element : ι → Element} {key : String}
    (named : ∀ item, (element item).tag = key) (tag : String) (items : List ι) :
    (items.map element).filter (·.tag = tag) = if key = tag then items.map element else [] := by
  split
  case isTrue same =>
      rw [List.filter_eq_self, List.forall_mem_map]
      intro item _
      exact decide_eq_true ((named item).trans same)
  case isFalse other =>
      rw [List.filter_eq_nil_iff, List.forall_mem_map]
      intro item _ hit
      exact other ((named item).symm.trans (of_decide_eq_true hit))

theorem writable_address {key : String} (plain : Reader.isPlainName key) (n : Int) :
    Reader.Writable (key, address n) := by
  refine ⟨plain, fun c member => ?_⟩
  rw [address, String.toList_ofList] at member
  exact (plain_facts (Number.decimal_plain n c member)).2.2

theorem writable_base64 {key : String} (plain : Reader.isPlainName key) (bytes : List UInt8) :
    Reader.Writable (key, base64 bytes) := by
  refine ⟨plain, fun c member => ?_⟩
  rw [base64, String.toList_ofList] at member
  exact (plain_facts (Bytes.Base64.encode_plain bytes c member)).2.2

/-! ### Writes -/

def writePairs (write : Write) : List (String × String) :=
  [("location", address write.location), ("value", base64 write.value)]

def writeElement (write : Write) : Element :=
  .ofParts "patch" (writePairs write) []

theorem tag_write (write : Write) : (writeElement write).tag = "patch" :=
  rfl

theorem tagged_write (write : Write) : Tagged "patch" (writePairs write) where
  plain := by decide
  writable := by
    rw [writePairs, List.forall_mem_cons, List.forall_mem_singleton]
    exact ⟨writable_address (by decide) _, writable_base64 (by decide) _⟩
  distinct := by simp [writePairs]
  unbound := by simp [writePairs]

def writeText (write : Write) : List Char :=
  Reader.tagChars "patch" (writePairs write) true

theorem writeLine_of_short {write : Write} (short : Short write.location) :
    writeLine write = .ok (String.ofList (line 4 (writeText write))) := by
  rw [writeLine, writeInt_of_short short]
  refine congrArg Except.ok (String.toList_injective ?_)
  simp [line, writeText, Reader.tagChars, Reader.tagBody, writePairs, Reader.attributeChars,
    Reader.quoted, Reader.tagEnd, address, base64, flatMap_escapeChar (Number.decimal_plain _),
    flatMap_escapeChar (Bytes.Base64.encode_plain _), toString]

theorem short_of_writeLine {write : Write} {text : String} (written : writeLine write = .ok text) :
    Short write.location := by
  obtain ⟨location, number, -⟩ := bind_ok written
  exact short_of_writeInt number

/-- A write is read back from its element. -/
theorem readWrite_element {write : Write} (short : Short write.location) :
    readWrite (writeElement write) = .ok write := by
  have location : (writeElement write).get? "location" = some (address write.location) := rfl
  have value : (writeElement write).get? "value" = some (base64 write.value) := rfl
  simp only [readWrite, location, value, readNumber_address short, Option.getD_some,
    readBytes_base64]
  rfl

/-! ### The bytes behind the overlay -/

def appendElement (blob : List UInt8) : Element :=
  .ofParts "append" [] ((Bytes.Base64.encode blob).map .char)

def appendText (blob : List UInt8) : List Char :=
  if blob.isEmpty then Reader.tagChars "append" [] true
  else Reader.tagChars "append" [] false ++
    (Bytes.Base64.encode blob ++ Reader.endTagChars "append")

theorem tagged_bare {key : String} (plain : Reader.isPlainName key) : Tagged key [] where
  plain := plain
  writable := List.forall_mem_nil _
  distinct := List.nodup_nil
  unbound := List.not_mem_nil

/-- No bytes are written as an element without content, others as its text. -/
theorem isElement_append {alphabet : Alphabet} (blob : List UInt8) :
    IsElement alphabet (appendText blob) (appendElement blob) := by
  unfold appendText
  split
  case isTrue empty =>
      rw [List.isEmpty_iff.mp empty]
      exact .closed (tagged_bare (by decide))
  case isFalse =>
      refine .around (tagged_bare (by decide)) (.chars (List.all_eq_true.mpr fun c member => ?_))
      exact (plain_facts (Bytes.Base64.encode_plain blob c member)).2.1

theorem appendLine_eq (blob : List UInt8) :
    appendLine blob = String.ofList (line 4 (appendText blob)) := by
  apply String.toList_injective
  unfold appendLine appendText
  split <;> simp [line, Reader.tagChars, Reader.tagBody, Reader.tagEnd, Reader.endTagChars, base64,
    toString]

theorem readBytes_append (blob : List UInt8) :
    readBytes (appendElement blob).lead = .ok blob := by
  have lead : ∀ cs : List Char, Part.lead (cs.map .char) = cs := by
    intro cs
    induction cs with
    | nil => rfl
    | cons c cs ih => rw [List.map_cons, Part.lead, ih]
  have text : (appendElement blob).lead = base64 blob := by
    rw [appendElement, Element.ofParts, Element.lead, lead]
    rfl
  rw [text, readBytes_base64]

/-! ### Patches -/

def patchPairs (patch : Patch) : List (String × String) :=
  [("name", patch.name), ("start", address patch.base)]

def patchParts (patch : Patch) : List Part :=
  ['\n'].map .char ++ ((patch.writes.flatMap fun write => lineParts 4 (writeElement write)) ++
    (lineParts 4 (appendElement patch.blob) ++ [' ', ' '].map .char))

def patchElement (patch : Patch) : Element :=
  .ofParts "overlay" (patchPairs patch) (patchParts patch)

def patchText (patch : Patch) : List Char :=
  Reader.tagChars "overlay" (patchPairs patch) false ++
    ((['\n'] ++ ((patch.writes.flatMap fun write => line 4 (writeText write)) ++
      (line 4 (appendText patch.blob) ++ [' ', ' ']))) ++ Reader.endTagChars "overlay")

theorem tag_patch (patch : Patch) : (patchElement patch).tag = "overlay" :=
  rfl

theorem tagged_patch {patch : Patch} (legal : ∀ c ∈ patch.name.toList, isLegal c) :
    Tagged "overlay" (patchPairs patch) where
  plain := by decide
  writable := by
    rw [patchPairs, List.forall_mem_cons, List.forall_mem_singleton]
    exact ⟨⟨show Reader.isPlainName "name" by decide, legal⟩, writable_address (by decide) _⟩
  distinct := by simp [patchPairs]
  unbound := by simp [patchPairs]

theorem isElement_patch {alphabet : Alphabet} {patch : Patch}
    (legal : ∀ c ∈ patch.name.toList, isLegal c) :
    IsElement alphabet (patchText patch) (patchElement patch) := by
  refine .around (tagged_patch legal) ((IsContent.chars rfl).append ?_)
  refine (IsContent.flatMap fun write _ => ?_).append ?_
  · exact isContent_line (.closed (tagged_write write)) 4
  · exact (isContent_line (isElement_append patch.blob) 4).append (.chars rfl)

theorem toList_join {ι : Type} (text : ι → List Char) (items : List ι) :
    (String.join (items.map fun item => String.ofList (text item))).toList =
      items.flatMap text := by
  simp [String.toList_join, List.flatMap_map]

def patchNumbers (patch : Patch) : List Int :=
  patch.base :: patch.writes.map (·.location)

theorem patchLines_of_short {patch : Patch} (short : ∀ n ∈ patchNumbers patch, Short n) :
    patchLines patch = .ok (String.ofList (line 2 (patchText patch))) := by
  have base : Short patch.base := short _ List.mem_cons_self
  have writes : patch.writes.mapM writeLine =
      .ok (patch.writes.map fun write => String.ofList (line 4 (writeText write))) :=
    mapM_ok_map fun write member => writeLine_of_short
      (short _ (List.mem_cons_of_mem _ (List.mem_map_of_mem member)))
  rw [patchLines, writeInt_of_short base, writes, appendLine_eq]
  refine congrArg Except.ok (String.toList_injective ?_)
  simp only [String.toList_append, toList_join]
  simp [line, patchText, Reader.tagChars, Reader.tagBody, patchPairs, Reader.attributeChars,
    Reader.quoted, Reader.tagEnd, Reader.endTagChars, address, escape,
    flatMap_escapeChar (Number.decimal_plain _), toString]

theorem short_of_patchLines {patch : Patch} {text : String}
    (written : patchLines patch = .ok text) : ∀ n ∈ patchNumbers patch, Short n := by
  obtain ⟨base, number, written⟩ := bind_ok written
  obtain ⟨lines, each, -⟩ := bind_ok written
  rw [patchNumbers, List.forall_mem_cons, List.forall_mem_map]
  refine ⟨short_of_writeInt number, fun write member => ?_⟩
  obtain ⟨line, -, written⟩ := exists_of_forall₂ (forall₂_of_mapM_ok each).flip member
  exact short_of_writeLine written

/-- A patch is read back from its element. -/
theorem readPatch_element {patch : Patch} (short : ∀ n ∈ patchNumbers patch, Short n) :
    readPatch (patchElement patch) = .ok patch := by
  have children : (patchElement patch).children =
      patch.writes.map writeElement ++ [appendElement patch.blob] := by
    simp only [patchElement, Element.ofParts, Element.children, patchParts, List.filterMap_append,
      filterMap_lines, filterMap_lineParts, filterMap_chars, List.nil_append, List.append_nil]
  have writes : (patchElement patch).named "patch" = patch.writes.map writeElement := by
    rw [Element.named, children, List.filter_append, filter_tag tag_write, if_pos rfl]
    exact List.append_nil _
  have append : (patchElement patch).named "append" = [appendElement patch.blob] := by
    rw [Element.named, children, List.filter_append, filter_tag tag_write, if_neg (by decide)]
    rfl
  have given : (patch.writes.map writeElement).mapM readWrite = .ok patch.writes := by
    rw [List.mapM_map, mapM_ok_map (g := id) fun write member => ?_, List.map_id]
    exact readWrite_element (short _ (List.mem_cons_of_mem _ (List.mem_map_of_mem member)))
  have name : (patchElement patch).get? "name" = some patch.name := rfl
  have start : (patchElement patch).get? "start" = some (address patch.base) := rfl
  simp only [readPatch, writes, append, given, List.head?_cons, readBytes_append, name, start,
    Option.getD_some, readNumber_address (short _ List.mem_cons_self)]
  rfl

/-! ### Whole documents -/

def rootParts (document : Document) : List Part :=
  ['\n'].map .char ++ document.patches.flatMap fun patch => lineParts 2 (patchElement patch)

def rootElement (document : Document) : Element :=
  .ofParts "overlays" [] (if document.patches.isEmpty then [] else rootParts document)

def rootText (document : Document) : List Char :=
  if document.patches.isEmpty then Reader.tagChars "overlays" [] true
  else Reader.tagChars "overlays" [] false ++
    ((['\n'] ++ document.patches.flatMap fun patch => line 2 (patchText patch)) ++
      Reader.endTagChars "overlays")

def numbers (document : Document) : List Int :=
  document.patches.flatMap patchNumbers

theorem isElement_root {alphabet : Alphabet} {document : Document}
    (legal : ∀ patch ∈ document.patches, ∀ c ∈ patch.name.toList, isLegal c) :
    IsElement alphabet (rootText document) (rootElement document) := by
  unfold rootText rootElement
  split
  case isTrue => exact .closed (tagged_bare (by decide))
  case isFalse =>
      refine .around (tagged_bare (by decide)) ((IsContent.chars rfl).append ?_)
      exact .flatMap fun patch member => isContent_line (isElement_patch (legal patch member)) 2

/-- A document of short addresses can be written. -/
theorem write_of_short {document : Document} (short : ∀ n ∈ document.numbers, Short n) :
    document.write = .ok (opening ++ String.ofList (rootText document ++ ['\n'])) := by
  have patches : document.patches.mapM patchLines =
      .ok (document.patches.map fun patch => String.ofList (line 2 (patchText patch))) :=
    mapM_ok_map fun patch member => patchLines_of_short fun n number =>
      short n (List.mem_flatMap.mpr ⟨patch, member, number⟩)
  rw [write, patches]
  have lines := toList_join (fun patch => line 2 (patchText patch)) document.patches
  change (if (document.patches.map _).isEmpty then _ else _) = _
  unfold rootText
  by_cases none : document.patches.isEmpty
  case pos =>
      rw [if_pos (by simpa using none), if_pos none]
      refine congrArg Except.ok (String.toList_injective ?_)
      simp [Reader.tagChars, Reader.tagBody, Reader.tagEnd]
  case neg =>
      rw [if_neg (by simpa using none), if_neg none]
      refine congrArg Except.ok (String.toList_injective ?_)
      simp only [String.toList_append, lines]
      simp [Reader.tagChars, Reader.tagBody, Reader.tagEnd, Reader.endTagChars]

/-- Only a document of short addresses can. -/
theorem short_of_write {document : Document} {text : String}
    (written : document.write = .ok text) : ∀ n ∈ document.numbers, Short n := by
  obtain ⟨patches, each, -⟩ := bind_ok written
  rw [numbers, List.forall_mem_flatMap]
  intro patch member
  obtain ⟨lines, -, written⟩ := exists_of_forall₂ (forall₂_of_mapM_ok each).flip member
  exact short_of_patchLines written

/-- A document is read back from its root element. -/
theorem ofElement_root {document : Document} (short : ∀ n ∈ document.numbers, Short n) :
    ofElement (rootElement document) = .ok document := by
  have children : (rootElement document).children = document.patches.map patchElement := by
    unfold rootElement
    split
    case isTrue none =>
        rw [List.isEmpty_iff.mp none]
        rfl
    case isFalse =>
        simp only [Element.ofParts, Element.children, rootParts, List.filterMap_append,
          filterMap_lines, filterMap_chars, List.nil_append]
  have patches : (rootElement document).named "overlay" = document.patches.map patchElement := by
    rw [Element.named, children, filter_tag tag_patch, if_pos rfl]
  have given : (document.patches.map patchElement).mapM readPatch = .ok document.patches := by
    rw [List.mapM_map, mapM_ok_map (g := id) fun patch member => ?_, List.map_id]
    exact readPatch_element fun n number =>
      short n (List.mem_flatMap.mpr ⟨patch, member, number⟩)
  have tag : (rootElement document).tag = "overlays" := rfl
  rw [ofElement, patches, given, tag]
  rfl

end Document

end OverlayPatch
