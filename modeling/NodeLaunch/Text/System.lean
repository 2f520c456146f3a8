import NodeLaunch.Text.Pieces
import NodeLaunch.Text.Quoted

/-!
# Texts of the system

Names of files, arguments and variables are bytes. They are UTF-8 by custom
only: a text of the system can be *shown* as characters always, and *read* as
characters where it is UTF-8. What is shown does not give the bytes back, for
all bytes that begin no character look alike.
-/

namespace NodeLaunch

def Text.bytes (text : String) : List UInt8 := text.toUTF8.data.toList

theorem Text.bytes_eq_flatMap (text : String) :
    bytes text = text.toList.flatMap String.utf8EncodeChar := by
  rw [bytes, String.toUTF8, ← String.utf8Encode_toList, List.utf8Encode,
    List.toList_data_toByteArray]

@[ext] structure SystemText where
  bytes : List UInt8
  deriving DecidableEq, Repr, Inhabited

namespace SystemText

def ofString (s : String) : SystemText := ⟨Text.bytes s⟩

instance : Coe String SystemText := ⟨ofString⟩

instance : Append SystemText := ⟨fun a b => ⟨a.bytes ++ b.bytes⟩⟩

@[simp] theorem bytes_append (a b : SystemText) : (a ++ b).bytes = a.bytes ++ b.bytes := rfl

@[simp] theorem bytes_empty : (ofString "").bytes = [] := rfl

@[simp] theorem empty_append (t : SystemText) : ofString "" ++ t = t := rfl

theorem ofString_append (s t : String) : ofString (s ++ t) = ofString s ++ ofString t := by
  ext1
  simp [ofString, Text.bytes_eq_flatMap]

@[simp] theorem ofString_inj {s t : String} : ofString s = ofString t ↔ s = t := by
  simp [ofString, Text.bytes, ← String.toByteArray_inj, ByteArray.ext_iff, ← Array.toList_inj]

theorem append_assoc (a b c : SystemText) : a ++ b ++ c = a ++ (b ++ c) := by
  ext1; simp

theorem eq_empty_iff {t : SystemText} : t = ofString "" ↔ t.bytes = [] :=
  ⟨fun h => h ▸ rfl, fun h => SystemText.ext h⟩

@[simp] theorem append_eq_empty_iff {a b : SystemText} :
    a ++ b = ofString "" ↔ a = ofString "" ∧ b = ofString "" := by
  simp [eq_empty_iff]

/-! ## Pieces -/

abbrev slash : UInt8 := 0x2F

def pieces (sep : UInt8) (t : SystemText) : List SystemText := (t.bytes.splitOn sep).map mk

def join (sep : UInt8) (parts : List SystemText) : SystemText :=
  ⟨[sep].intercalate (parts.map bytes)⟩

theorem join_pieces (sep : UInt8) (t : SystemText) : join sep (pieces sep t) = t := by
  have h : ((t.bytes.splitOn sep).map mk).map bytes = t.bytes.splitOn sep := by
    simp [List.map_map, Function.comp_def]
  rw [join, pieces, h, List.intercalate_splitOn]

theorem pieces_join {sep : UInt8} {parts : List SystemText} (hne : parts ≠ [])
    (h : ∀ p ∈ parts, sep ∉ p.bytes) : pieces sep (join sep parts) = parts := by
  rw [pieces, join, List.splitOn_intercalate]
  · simp [List.map_map, Function.comp_def]
  · simpa using h
  · simpa using hne

theorem join_cons (sep : UInt8) (first : SystemText) {rest : List SystemText} (h : rest ≠ []) :
    join sep (first :: rest) = first ++ ⟨[sep]⟩ ++ join sep rest := by
  have hmap : rest.map bytes ≠ [] := by simpa using h
  ext1
  rw [join, List.map_cons, List.intercalate_cons_of_ne_nil hmap]
  rfl

theorem join_singleton (sep : UInt8) (part : SystemText) : join sep [part] = part := by
  ext1
  rw [join, List.map_singleton, List.intercalate_singleton]

theorem join_concat (sep : UInt8) {parts : List SystemText} (h : parts ≠ []) (last : SystemText) :
    join sep (parts ++ [last]) = join sep parts ++ ⟨[sep]⟩ ++ last := by
  induction parts with
  | nil => exact absurd rfl h
  | cons first rest ih =>
    rw [List.cons_append, join_cons sep first (by simp)]
    cases rest with
    | nil => rw [List.nil_append, join_singleton, join_singleton]
    | cons second rest =>
      rw [ih (by simp), join_cons sep first (by simp)]
      simp only [append_assoc]

theorem join_ne_empty (sep : UInt8) {first : SystemText} (h : first ≠ ofString "")
    (rest : List SystemText) : join sep (first :: rest) ≠ ofString "" := by
  cases rest with
  | nil => rwa [join_singleton]
  | cons second rest =>
    rw [join_cons sep first (by simp)]
    intro hempty
    rw [append_assoc, append_eq_empty_iff] at hempty
    exact h hempty.1

theorem pieces_ne_nil (sep : UInt8) (t : SystemText) : pieces sep t ≠ [] := by
  simp [pieces, List.splitOn_ne_nil]

theorem pieces_append {sep : UInt8} (a b : SystemText) :
    pieces sep (a ++ ⟨[sep]⟩ ++ b) = pieces sep a ++ pieces sep b := by
  simp [pieces, List.splitOn_append_cons_self]

theorem pieces_of_not_mem {sep : UInt8} {t : SystemText} (h : sep ∉ t.bytes) :
    pieces sep t = [t] := by
  simp [pieces, List.splitOn_eq_singleton h]

theorem not_mem_of_mem_pieces {sep : UInt8} {t piece : SystemText} (h : piece ∈ pieces sep t) :
    sep ∉ piece.bytes := by
  obtain ⟨part, hpart, rfl⟩ := List.mem_map.1 h
  exact Text.not_mem_of_mem_splitOn hpart

/-! ## Characters -/

def firstChar? (bytes : List UInt8) : Option Char := (ByteArray.mk bytes.toArray).utf8DecodeChar? 0

/-- The second byte of a character of three or four bytes lies in this range. -/
def secondRange? (lead : UInt8) : Option (UInt8 × UInt8) :=
  if lead = 0xE0 then some (0xA0, 0xBF)
  else if lead = 0xED then some (0x80, 0x9F)
  else if 0xE1 ≤ lead ∧ lead ≤ 0xEF then some (0x80, 0xBF)
  else if lead = 0xF0 then some (0x90, 0xBF)
  else if 0xF1 ≤ lead ∧ lead ≤ 0xF3 then some (0x80, 0xBF)
  else if lead = 0xF4 then some (0x80, 0x8F)
  else none

/-- How many bytes at the front, of a text that begins with no character, stand
together: those of a character that breaks off, else one. -/
def brokenLength : List UInt8 → Nat
  | lead :: second :: rest =>
    match secondRange? lead with
    | some (least, greatest) =>
      if least ≤ second ∧ second ≤ greatest then
        match rest with
        | third :: _ => if 0xF0 ≤ lead ∧ 0x80 ≤ third ∧ third ≤ 0xBF then 3 else 2
        | [] => 2
      else 1
    | none => 1
  | _ => 1

/-- A text of the system falls into characters and bytes that belong to none. -/
inductive Chunk
  | char (c : Char)
  | broken (bytes : List UInt8)
  deriving DecidableEq, Repr

namespace Chunk

def bytes : Chunk → List UInt8
  | .char c => String.utf8EncodeChar c
  | .broken bytes => bytes

def char? : Chunk → Option Char
  | .char c => some c
  | .broken _ => none

/-- The replacement character stands for whatever is broken. -/
def shown : Chunk → Char
  | .char c => c
  | .broken _ => '\uFFFD'

def escapeByte (byte : UInt8) : List Char :=
  ['\\', 'x', (Text.hexDigit (byte.toNat / 16)).toUpper, (Text.hexDigit (byte.toNat % 16)).toUpper]

def quoted : Chunk → List Char
  | .char c => Text.quoteChar c
  | .broken bytes => bytes.flatMap escapeByte

end Chunk

def firstChunk (bytes : List UInt8) : Chunk :=
  match firstChar? bytes with
  | some c => .char c
  | none => .broken (bytes.take (brokenLength bytes))

/-- The chunks of the bytes after the first few, which an earlier chunk holds. -/
def chunksAfter : Nat → List UInt8 → List Chunk
  | _, [] => []
  | skip + 1, _ :: rest => chunksAfter skip rest
  | 0, byte :: rest =>
    let chunk := firstChunk (byte :: rest)
    chunk :: chunksAfter (chunk.bytes.length - 1) rest

def chunks (t : SystemText) : List Chunk := chunksAfter 0 t.bytes

def display (t : SystemText) : String := String.ofList (t.chunks.map Chunk.shown)

def text? (t : SystemText) : Option String := (t.chunks.mapM Chunk.char?).map String.ofList

def quoted (t : SystemText) : String :=
  String.ofList ('"' :: (t.chunks.flatMap Chunk.quoted ++ ['"']))

end SystemText

end NodeLaunch
