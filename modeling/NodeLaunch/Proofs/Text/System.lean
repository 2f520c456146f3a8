import Mathlib.Data.List.Basic
import Mathlib.Tactic.SplitIfs
import NodeLaunch.Text.System

/-!
# What is shown of a text

A text made of characters is shown and read as those characters, and no other
text is read so. A slash is shown just where the text has the byte, whatever
stands about it, so the shown text has the pieces of the text as they are shown.
-/

namespace NodeLaunch.SystemText

-- ---------------------------------------------------------------------------
-- One character
-- ---------------------------------------------------------------------------

variable {bytes rest : List UInt8} {c : Char}

theorem firstChar?_encode_append (c : Char) (rest : List UInt8) :
    firstChar? (String.utf8EncodeChar c ++ rest) = some c := by
  have harray : ByteArray.mk (String.utf8EncodeChar c ++ rest).toArray =
      (String.utf8EncodeChar c).toByteArray ++ rest.toByteArray := by
    rw [← List.toByteArray_append, ByteArray.ext_iff, List.data_toByteArray]
  rw [firstChar?, harray, ByteArray.utf8DecodeChar?_utf8EncodeChar_append]

theorem exists_of_firstChar? (h : firstChar? bytes = some c) :
    ∃ rest, bytes = String.utf8EncodeChar c ++ rest := by
  obtain ⟨rest, hrest⟩ := ByteArray.exists_of_utf8DecodeChar?_eq_some h
  refine ⟨rest.data.toList, ?_⟩
  have hlist := congrArg (·.data.toList) hrest
  simpa using hlist

theorem le_of_mem_tail_encode {byte : UInt8} (h : byte ∈ (String.utf8EncodeChar c).tail) :
    0x80 ≤ byte := by
  rw [UInt8.le_iff_toNat_le]
  simp only [String.utf8EncodeChar] at h
  split_ifs at h
  · cases h
  all_goals
    simp only [List.tail_cons, List.mem_cons, List.not_mem_nil, or_false] at h
    rcases h with rfl | rfl | rfl <;> simp only [UInt8.toNat_ofNat', UInt8.reduceToNat] <;> omega

-- ---------------------------------------------------------------------------
-- Chunks
-- ---------------------------------------------------------------------------

theorem chunksAfter_eq_drop (skip : Nat) (bytes : List UInt8) :
    chunksAfter skip bytes = chunks ⟨bytes.drop skip⟩ := by
  induction bytes generalizing skip with
  | nil => simp [chunks, chunksAfter]
  | cons byte rest ih =>
    cases skip with
    | zero => rfl
    | succ skip => rw [chunksAfter, ih, List.drop_succ_cons]

theorem brokenLength_pos (bytes : List UInt8) : 0 < brokenLength bytes := by
  unfold brokenLength
  repeat' split
  all_goals decide

theorem brokenLength_le (h : bytes ≠ []) : brokenLength bytes ≤ bytes.length := by
  unfold brokenLength
  repeat' split
  all_goals simp_all
  exact List.length_pos_iff.2 h

theorem exists_firstChunk (h : bytes ≠ []) :
    ∃ rest, bytes = (firstChunk bytes).bytes ++ rest ∧ (firstChunk bytes).bytes ≠ [] := by
  rw [firstChunk]
  cases hfirst : firstChar? bytes with
  | some c =>
    obtain ⟨rest, hrest⟩ := exists_of_firstChar? hfirst
    exact ⟨rest, hrest, String.utf8EncodeChar_ne_nil⟩
  | none =>
    refine ⟨_, (List.take_append_drop _ _).symm, ?_⟩
    have hpos := brokenLength_pos bytes
    simp [Chunk.bytes, h]
    omega

theorem chunks_cons (h : bytes ≠ []) :
    ∃ rest, bytes = (firstChunk bytes).bytes ++ rest ∧ rest.length < bytes.length ∧
      chunks ⟨bytes⟩ = firstChunk bytes :: chunks ⟨rest⟩ := by
  obtain ⟨rest, hrest, hne⟩ := exists_firstChunk h
  obtain ⟨byte, tail, rfl⟩ := List.exists_cons_of_ne_nil h
  have hpos := List.length_pos_iff.2 hne
  refine ⟨rest, hrest, ?_, ?_⟩
  · have hlength := congrArg List.length hrest
    rw [List.length_append] at hlength
    omega
  · have hdrop : tail.drop ((firstChunk (byte :: tail)).bytes.length - 1) = rest := by
      have hall := congrArg (List.drop (firstChunk (byte :: tail)).bytes.length) hrest
      rwa [List.drop_left, ← Nat.sub_add_cancel hpos, List.drop_succ_cons] at hall
    rw [chunks, chunksAfter, chunksAfter_eq_drop, hdrop]

/-- What holds of no bytes, and of bytes if it holds of those after the first chunk,
holds of all bytes. -/
@[elab_as_elim]
theorem chunk_induction {motive : List UInt8 → Prop} (nil : motive [])
    (chunk : ∀ bytes rest, bytes ≠ [] → bytes = (firstChunk bytes).bytes ++ rest →
      chunks ⟨bytes⟩ = firstChunk bytes :: chunks ⟨rest⟩ → motive rest → motive bytes)
    (bytes : List UInt8) : motive bytes := by
  by_cases h : bytes = []
  · exact h ▸ nil
  · obtain ⟨rest, hrest, hlt, hchunks⟩ := chunks_cons h
    exact chunk bytes rest h hrest hchunks (chunk_induction nil chunk rest)
termination_by bytes.length

theorem flatMap_bytes_chunks (t : SystemText) : t.chunks.flatMap Chunk.bytes = t.bytes := by
  obtain ⟨bytes⟩ := t
  induction bytes using chunk_induction with
  | nil => rfl
  | chunk bytes rest _ hrest hchunks ih => rw [hchunks, List.flatMap_cons, ih, ← hrest]

theorem chunks_encode_append (c : Char) (rest : List UInt8) :
    chunks ⟨String.utf8EncodeChar c ++ rest⟩ = .char c :: chunks ⟨rest⟩ := by
  have hfirst : firstChunk (String.utf8EncodeChar c ++ rest) = .char c := by
    rw [firstChunk, firstChar?_encode_append]
  obtain ⟨after, hafter, -, hchunks⟩ :=
    chunks_cons (List.append_ne_nil_of_left_ne_nil String.utf8EncodeChar_ne_nil rest)
  rw [hfirst] at hafter hchunks
  rw [hchunks, List.append_cancel_left hafter]

theorem chunks_ofString (s : String) : (ofString s).chunks = s.toList.map .char := by
  rw [ofString, Text.bytes_eq_flatMap]
  induction s.toList with
  | nil => rfl
  | cons c cs ih => rw [List.flatMap_cons, chunks_encode_append, ih, List.map_cons]

-- ---------------------------------------------------------------------------
-- Reading and showing
-- ---------------------------------------------------------------------------

@[simp] theorem display_ofString (s : String) : (ofString s).display = s := by
  simp [display, chunks_ofString, Function.comp_def, Chunk.shown]

theorem mapM_char?_eq_some {chunks : List Chunk} {cs : List Char} :
    chunks.mapM Chunk.char? = some cs ↔ chunks = cs.map .char := by
  induction chunks generalizing cs with
  | nil => cases cs <;> simp
  | cons chunk rest ih =>
    cases chunk with
    | broken bytes => cases cs <;> simp [List.mapM_cons, Chunk.char?]
    | char c =>
      cases cs with
      | nil => simp [List.mapM_cons, Chunk.char?, Option.bind_eq_some_iff]
      | cons d ds =>
        simp [List.mapM_cons, Chunk.char?, Option.bind_eq_some_iff, ih, and_comm]

theorem text?_eq_some_iff {t : SystemText} {s : String} : t.text? = some s ↔ t = ofString s := by
  constructor
  · intro h
    obtain ⟨cs, hcs, rfl⟩ := Option.map_eq_some_iff.1 h
    ext1
    rw [← flatMap_bytes_chunks, mapM_char?_eq_some.1 hcs, ofString, Text.bytes_eq_flatMap,
      List.flatMap_map, String.toList_ofList]
    rfl
  · rintro rfl
    rw [text?, chunks_ofString, mapM_char?_eq_some.2 rfl, Option.map_some, String.ofList_toList]

/-- A text that is shown without replacement characters is the text that is shown. -/
theorem display_eq_iff {t : SystemText} {s : String} (hs : '\uFFFD' ∉ s.toList) :
    t.display = s ↔ t = ofString s := by
  refine ⟨fun h => ?_, fun h => h ▸ display_ofString s⟩
  subst h
  have hchunks : ∀ chunk ∈ t.chunks, chunk = .char chunk.shown := by
    intro chunk hchunk
    cases chunk with
    | char c => rfl
    | broken bytes => exact absurd (by simpa [display] using ⟨_, hchunk, rfl⟩) hs
  ext1
  rw [← flatMap_bytes_chunks, ofString, Text.bytes_eq_flatMap, display, String.toList_ofList,
    List.flatMap_map]
  exact List.flatMap_congr fun chunk hchunk => congrArg Chunk.bytes (hchunks chunk hchunk)

-- ---------------------------------------------------------------------------
-- Slashes
-- ---------------------------------------------------------------------------

theorem le_of_secondRange? {lead least greatest : UInt8}
    (h : secondRange? lead = some (least, greatest)) : 0x80 ≤ least := by
  unfold secondRange? at h
  split_ifs at h
  all_goals cases h; decide

/-- A slash ends what breaks off before it. -/
theorem brokenLength_append_slash (h : bytes ≠ []) (after : List UInt8) :
    brokenLength (bytes ++ slash :: after) = brokenLength bytes := by
  have hslash : ¬ (0x80 : UInt8) ≤ slash := by decide
  match bytes with
  | [lead] =>
    simp only [List.singleton_append, brokenLength]
    split
    · next least greatest hrange =>
      have hleast := le_of_secondRange? hrange
      rw [if_neg]
      exact fun hsecond => hslash (UInt8.le_trans hleast hsecond.1)
    · rfl
  | [lead, second] => simp [brokenLength, hslash]
  | lead :: second :: third :: more => rfl

/-- A character that takes in a slash begins with it. -/
theorem exists_of_encode_append_eq {before after more : List UInt8} (hne : before ≠ [])
    (h : before ++ slash :: after = String.utf8EncodeChar c ++ more) :
    ∃ rest, before = String.utf8EncodeChar c ++ rest := by
  rcases List.append_eq_append_iff.1 h with ⟨rest, hrest, hslash⟩ | ⟨rest, hrest, -⟩
  · cases rest with
    | nil => exact ⟨[], by rw [hrest, List.append_nil, List.append_nil]⟩
    | cons byte rest =>
      obtain rfl : slash = byte := (List.cons.inj hslash).1
      obtain ⟨first, front, rfl⟩ := List.exists_cons_of_ne_nil hne
      have hmem : slash ∈ (String.utf8EncodeChar c).tail := by simp [hrest]
      exact absurd (le_of_mem_tail_encode hmem) (by decide)
  · exact ⟨rest, hrest⟩

theorem firstChunk_append_slash (h : bytes ≠ []) (after : List UInt8) :
    firstChunk (bytes ++ slash :: after) = firstChunk bytes := by
  unfold firstChunk
  cases hfirst : firstChar? bytes with
  | some c =>
    obtain ⟨rest, rfl⟩ := exists_of_firstChar? hfirst
    rw [List.append_assoc, firstChar?_encode_append]
  | none =>
    have hnone : firstChar? (bytes ++ slash :: after) = none := by
      cases hsome : firstChar? (bytes ++ slash :: after) with
      | none => rfl
      | some c =>
        obtain ⟨more, hmore⟩ := exists_of_firstChar? hsome
        obtain ⟨rest, rfl⟩ := exists_of_encode_append_eq h hmore
        rw [firstChar?_encode_append] at hfirst
        cases hfirst
    dsimp only
    rw [hnone, brokenLength_append_slash h, List.take_append_of_le_length (brokenLength_le h)]

theorem encode_slash : String.utf8EncodeChar '/' = [slash] := by decide

theorem chunks_slash (after : List UInt8) :
    chunks ⟨slash :: after⟩ = .char '/' :: chunks ⟨after⟩ := by
  rw [← chunks_encode_append, encode_slash, List.singleton_append]

theorem chunks_append_slash (before after : List UInt8) :
    chunks ⟨before ++ slash :: after⟩ = chunks ⟨before⟩ ++ .char '/' :: chunks ⟨after⟩ := by
  induction before using chunk_induction with
  | nil => exact chunks_slash after
  | chunk bytes rest hne hrest hchunks ih =>
    obtain ⟨more, hmore, -, hall⟩ :=
      chunks_cons (List.append_ne_nil_of_left_ne_nil hne (slash :: after))
    rw [firstChunk_append_slash hne] at hmore hall
    have hafter : more = rest ++ slash :: after := by
      nth_rewrite 1 [hrest] at hmore
      rw [List.append_assoc] at hmore
      exact (List.append_cancel_left hmore).symm
    rw [hall, hafter, ih, hchunks, List.cons_append]

theorem display_append_slash (before after : SystemText) :
    (before ++ "/" ++ after).display = before.display ++ "/" ++ after.display := by
  have hbytes : before ++ "/" ++ after = ⟨before.bytes ++ slash :: after.bytes⟩ := by
    ext1
    simp [show (ofString "/").bytes = [slash] from rfl]
  rw [hbytes, display, chunks_append_slash, List.map_append, List.map_cons, String.ofList_append,
    String.append_assoc, ← List.singleton_append, String.ofList_append]
  rfl

theorem display_join (parts : List SystemText) :
    (join slash parts).display = Text.join '/' (parts.map display) := by
  induction parts with
  | nil => rfl
  | cons first rest ih =>
    cases rest with
    | nil => rw [join_singleton, List.map_singleton, Text.join_singleton]
    | cons second rest =>
      have hjoin : join slash (first :: second :: rest) =
          first ++ "/" ++ join slash (second :: rest) := join_cons slash first (by simp)
      rw [hjoin, display_append_slash, ih, List.map_cons (a := first),
        Text.join_cons '/' _ (by simp)]
      rfl

/-- A slash is shown where the byte is, and only there. -/
theorem mem_display_iff {t : SystemText} : '/' ∈ t.display.toList ↔ slash ∈ t.bytes := by
  rw [display, String.toList_ofList, List.mem_map]
  constructor
  · rintro ⟨chunk, hchunk, hshown⟩
    cases chunk with
    | broken bytes => exact absurd hshown (by simp [Chunk.shown])
    | char c =>
      obtain rfl : c = '/' := hshown
      rw [← flatMap_bytes_chunks]
      exact List.mem_flatMap.2 ⟨_, hchunk, by simp [Chunk.bytes, encode_slash]⟩
  · intro hmem
    obtain ⟨before, after, hbytes⟩ := List.append_of_mem hmem
    obtain ⟨bytes⟩ := t
    subst hbytes
    exact ⟨.char '/', by simp [chunks_append_slash], rfl⟩

theorem pieces_display (t : SystemText) :
    Text.pieces '/' t.display = (t.pieces slash).map display := by
  have hjoin : t.display = Text.join '/' ((t.pieces slash).map display) := by
    rw [← display_join, join_pieces]
  rw [hjoin, Text.pieces_join (by simp [pieces_ne_nil])]
  intro shown hshown
  obtain ⟨piece, hpiece, rfl⟩ := List.mem_map.1 hshown
  rw [mem_display_iff]
  exact not_mem_of_mem_pieces hpiece

theorem ofString_join (parts : List String) :
    ofString (Text.join '/' parts) = join slash (parts.map ofString) := by
  induction parts with
  | nil => rfl
  | cons first rest ih =>
    cases rest with
    | nil => rw [List.map_singleton, join_singleton, Text.join_singleton]
    | cons second rest =>
      rw [Text.join_cons '/' first (by simp), ofString_append, ofString_append, ih,
        List.map_cons (a := first), join_cons slash _ (by simp)]
      rfl

theorem pieces_ofString (s : String) :
    (ofString s).pieces slash = (Text.pieces '/' s).map ofString := by
  have hjoin : ofString s = join slash ((Text.pieces '/' s).map ofString) := by
    rw [← ofString_join, Text.join_pieces]
  rw [hjoin, pieces_join (by simp [Text.pieces_ne_nil])]
  intro piece hpiece
  obtain ⟨text, htext, rfl⟩ := List.mem_map.1 hpiece
  rw [← mem_display_iff, display_ofString]
  exact Text.not_mem_of_mem_pieces htext

end NodeLaunch.SystemText
