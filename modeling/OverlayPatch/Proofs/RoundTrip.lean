import OverlayPatch.Proofs.Utf8
import OverlayPatch.Proofs.Writing

/-!
# Documents read back

A document is read back as it was written, provided that it can be written: the names have to
consist of characters that XML allows (`Allowed`), and no address may have more than
`Number.decimalLimit` digits. `ofBytes_write_iff` says that the second condition is needed as
well; it is the only reason for which a document is not written.
-/

namespace OverlayPatch

set_option autoImplicit false

open Markup

/-! ## The declaration -/

namespace Markup

/-- What is behind the opening mark of the declaration, up to its end. -/
def declaration : List Char :=
  " version='1.0' encoding='utf-8'?>".toList

theorem header_declaration (cs : List Char) :
    Reader.header .listed (declaration ++ cs) = some ({ encoding := some "utf-8" }, cs) := by
  have version : Reader.setting "version" .listed (declaration ++ cs) =
      some ("1.0", " encoding='utf-8'?>".toList ++ cs) := rfl
  have encoding : Reader.optional (Reader.setting "encoding") .listed
      (" encoding='utf-8'?>".toList ++ cs) = some (some "utf-8", "?>".toList ++ cs) := rfl
  have alone : Reader.optional (Reader.setting "standalone") .listed ("?>".toList ++ cs) =
      some (none, "?>".toList ++ cs) := rfl
  have gap : Reader.gap .listed ("?>".toList ++ cs) = some ((), "?>".toList ++ cs) := rfl
  have last : Reader.word ['?', '>'] .listed ("?>".toList ++ cs) = some ((), cs) := rfl
  rw [Reader.header, Reader.bind_taken version, Reader.bind_taken encoding,
    Reader.bind_taken (Reader.guard_apply (by decide) _), Reader.bind_taken alone,
    Reader.bind_taken (Reader.guard_apply (by decide) _), Reader.bind_taken gap,
    Reader.bind_taken last]
  rfl

/-- The declaration has 38 characters; the line end behind it is left to what follows. -/
theorem read?_opening (cs : List Char) :
    Header.read? (Document.opening.toList ++ cs) = some ({ encoding := some "utf-8" }, 38) := by
  have inner : Header.opened? (Document.opening.toList ++ cs) =
    some (declaration ++ '\n' :: cs) := rfl
  rw [Header.read?, inner]
  simp only [header_declaration, Option.pure_def, Option.bind_eq_bind, Option.bind_some,
    Option.some.injEq, Prod.mk.injEq, true_and]
  rw [List.length_append, List.length_cons,
    show Document.opening.toList.length = 39 from rfl]
  omega

theorem encode_opening :
    Text.Utf8.encode Document.opening =
      Document.opening.toList.map (fun c => UInt8.ofNat c.toNat) := by
  rw [Text.Utf8.encode_eq]
  decide

/-- The opening of a document has no mark of the order of bytes. -/
theorem guess_opening (bytes : List UInt8) :
    Encoding.guess (Text.Utf8.encode Document.opening ++ bytes) =
      (.utf8, Text.Utf8.encode Document.opening ++ bytes) := by
  rw [encode_opening]
  rfl

theorem asciiLead_opening (bytes : List UInt8) :
    Encoding.asciiLead .utf8 (Text.Utf8.encode Document.opening ++ bytes) =
      Document.opening.toList ++ Encoding.asciiLead .utf8 bytes := by
  rw [encode_opening]
  rfl

theorem drop_opening (text : String) :
    (Text.Utf8.encode Document.opening ++ Text.Utf8.encode text).drop 38 =
      Text.Utf8.encode ("\n" ++ text) := by
  have newline : Text.Utf8.encode "\n" = [10] := by
    rw [Text.Utf8.encode_eq]
    decide
  rw [encode_opening, Text.Utf8.encode_append, newline]
  rfl

theorem readBytes_of_opening {labelled : Bool} {bytes rest : List UInt8} {header : Header}
    {encoding : Encoding} {root : Element}
    (opened : Element.opening labelled bytes = .ok (header, encoding, rest))
    (read : (encoding.decode? rest).bind (Element.ofChars? encoding.alphabet header.alone) =
      some root) : Element.readBytes labelled bytes = .ok root := by
  unfold Element.readBytes
  rw [opened]
  simp only [bind, Except.bind, read]

/-- A text behind the declaration is read by itself, in the alphabet of UTF-8, whether or not the
declaration counts. -/
theorem readBytes_opening (labelled : Bool) (text : String) {root : Element}
    (read : Element.ofChars? .listed false ('\n' :: text.toList) = some root) :
    Element.readBytes labelled (Text.Utf8.encode (Document.opening ++ text)) = .ok root := by
  have opened : Element.opening labelled (Text.Utf8.encode (Document.opening ++ text)) =
      .ok ({ encoding := some "utf-8" }, .utf8, Text.Utf8.encode ("\n" ++ text)) := by
    rw [Element.opening, Text.Utf8.encode_append, guess_opening]
    simp only [asciiLead_opening, read?_opening, ← drop_opening]
    cases labelled with
    | true => rfl
    | false => rfl
  have decoded : Encoding.decode? .utf8 (Text.Utf8.encode ("\n" ++ text)) =
      some ('\n' :: text.toList) := by
    rw [Encoding.decode?, Text.Utf8.decode_encode, String.toList_append]
    rfl
  refine readBytes_of_opening opened ?_
  rw [decoded, Option.bind_some]
  exact read

end Markup

namespace Document

/-! ## Names -/

def Allowed (c : Char) : Prop :=
  c = '\t' ∨ c = '\n' ∨ c = '\r' ∨ (0x20 ≤ c.toNat ∧ c.toNat ≤ 0xD7FF) ∨
    (0xE000 ≤ c.toNat ∧ c.toNat ≤ 0xFFFD) ∨ (0x10000 ≤ c.toNat ∧ c.toNat ≤ 0x10FFFF)
deriving Decidable

theorem isLegal_of_allowed {c : Char} (allowed : Allowed c) : isLegal c := by
  obtain rfl | rfl | rfl | range | range | range := allowed
  · rfl
  · rfl
  · rfl
  all_goals
    simp only [isLegal, Bool.or_eq_true, Bool.and_eq_true, beq_iff_eq, bne_iff_ne, ne_eq,
      decide_eq_true_eq]
    omega

/-- The names as a check over their characters, since deciding the condition as it stands may go
through all characters there are. -/
theorem allowed_of_all {document : Document}
    (all : document.patches.all fun patch => patch.name.toList.all fun c => decide (Allowed c)) :
    ∀ patch ∈ document.patches, ∀ c ∈ patch.name.toList, Allowed c := by
  simpa using all

/-! ## Reading back -/

/-- A document whose addresses can be written is read back from its bytes. -/
theorem ofBytes_write {document : Document} (legal : ∀ patch ∈ document.patches,
      ∀ c ∈ patch.name.toList, isLegal c) (short : ∀ n ∈ document.numbers, Short n) :
    ofBytes (Text.Utf8.encode (opening ++ String.ofList (rootText document ++ ['\n']))) =
      .ok document := by
  have is : IsElement .listed (rootText document) (rootElement document) := isElement_root legal
  have begins : ∃ cs, rootText document = '<' :: 'o' :: cs := by
    unfold rootText
    split <;> exact ⟨_, rfl⟩
  obtain ⟨cs, begins⟩ := begins
  have read : Element.ofChars? .listed false ('\n' :: (rootText document ++ ['\n'])) =
      some (rootElement document) := by
    rw [begins] at is ⊢
    exact Element.ofChars?_of_isElement is (by decide) false
  have root : Markup.Element.ofBytes _ = .ok (rootElement document) :=
    readBytes_opening false (String.ofList (rootText document ++ ['\n']))
      (by rw [String.toList_ofList]; exact read)
  rw [ofBytes, root]
  exact ofElement_root short

/-- A document whose names are of characters that XML allows can be written and is read back as
it was, exactly if none of its addresses has too many digits. -/
theorem ofBytes_write_iff {document : Document}
    (allowed : ∀ patch ∈ document.patches, ∀ c ∈ patch.name.toList, Allowed c) :
    (∃ text, document.write = .ok text ∧ ofBytes (Text.Utf8.encode text) = .ok document) ↔
      ∀ n ∈ document.numbers, n.natAbs < 10 ^ Number.decimalLimit := by
  constructor
  · rintro ⟨text, written, -⟩
    exact short_of_write written
  · intro short
    have legal : ∀ patch ∈ document.patches, ∀ c ∈ patch.name.toList, isLegal c :=
      fun patch member c within => isLegal_of_allowed (allowed patch member c within)
    exact ⟨_, write_of_short short, ofBytes_write legal short⟩

/-- Names with every character that is escaped, addresses of both signs, and no bytes. -/
def awkward : Document where
  patches := [
    { name := "a<\"b\">&'c'\t\r\n]]>\u00e9\ufffd", base := -1, writes := [
        { location := 0x020C7700, value := [] }, { location := -16, value := [0, 255, 16] }],
      blob := [] },
    { name := "", base := 0 }]

/-- Every character that is escaped, addresses of both signs and no bytes. -/
theorem ofBytes_write_awkward :
    (∀ patch ∈ awkward.patches, ∀ c ∈ patch.name.toList, Allowed c) ∧
      ∃ text, awkward.write = .ok text ∧ ofBytes (Text.Utf8.encode text) = .ok awkward :=
  ⟨allowed_of_all (by decide), (ofBytes_write_iff (allowed_of_all (by decide))).mpr
    (by decide +kernel)⟩

def wide : Document where
  patches := [{ name := "m", base := 16 ^ 3600, writes := [
    { location := 0x020C7700, value := [7, 0, 0, 0] }] }]

/-- Not every document whose names are in order can be written. -/
theorem write_wide :
    (∀ patch ∈ wide.patches, ∀ c ∈ patch.name.toList, Allowed c) ∧
      wide.write = .error .unwritable ∧
      ¬ ∃ text, wide.write = .ok text ∧ ofBytes (Text.Utf8.encode text) = .ok wide := by
  have long : ¬ Short (16 ^ 3600) := by
    unfold Short
    decide +kernel
  have refused : wide.write = .error .unwritable := by
    rw [write, wide, List.mapM_cons, patchLines, writeInt_of_long long]
    rfl
  refine ⟨allowed_of_all (by decide), refused, ?_⟩
  rintro ⟨text, written, -⟩
  rw [refused] at written
  cases written

end Document

end OverlayPatch
