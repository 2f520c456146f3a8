/-!
# Pieces of a text

A text cut at every occurrence of one character. Nothing is dropped: joining
the pieces with the character gives the text back. The *segments* of a slashed
name are its non-empty pieces, so they do not see how often a slash is
repeated, nor slashes at either end.
-/

namespace NodeLaunch.Text

def pieces (sep : Char) (s : String) : List String :=
  (s.toList.splitOn sep).map String.ofList

def join (sep : Char) (parts : List String) : String :=
  String.ofList ([sep].intercalate (parts.map String.toList))

theorem join_pieces (sep : Char) (s : String) : join sep (pieces sep s) = s := by
  have h : ((s.toList.splitOn sep).map String.ofList).map String.toList = s.toList.splitOn sep := by
    simp [List.map_map, Function.comp_def]
  rw [join, pieces, h, List.intercalate_splitOn, String.ofList_toList]

theorem pieces_join {sep : Char} {parts : List String} (hne : parts ≠ [])
    (h : ∀ p ∈ parts, sep ∉ p.toList) : pieces sep (join sep parts) = parts := by
  rw [pieces, join, String.toList_ofList, List.splitOn_intercalate]
  · simp [List.map_map, Function.comp_def]
  · simpa using h
  · simpa using hne

theorem join_cons (sep : Char) (first : String) {rest : List String} (h : rest ≠ []) :
    join sep (first :: rest) = first ++ String.singleton sep ++ join sep rest := by
  have hmap : rest.map String.toList ≠ [] := by simpa using h
  rw [join, List.map_cons, List.intercalate_cons_of_ne_nil hmap, String.ofList_append,
    String.ofList_append, String.ofList_toList]
  rfl

theorem join_singleton (sep : Char) (part : String) : join sep [part] = part := by
  rw [join, List.map_singleton, List.intercalate_singleton, String.ofList_toList]

theorem join_concat (sep : Char) {parts : List String} (h : parts ≠ []) (last : String) :
    join sep (parts ++ [last]) = join sep parts ++ String.singleton sep ++ last := by
  induction parts with
  | nil => exact absurd rfl h
  | cons first rest ih =>
    rw [List.cons_append, join_cons sep first (by simp)]
    cases rest with
    | nil => rw [List.nil_append, join_singleton, join_singleton]
    | cons second rest =>
      rw [ih (by simp), join_cons sep first (by simp)]
      simp only [String.append_assoc]

theorem join_ne_empty (sep : Char) {first : String} (h : first ≠ "") (rest : List String) :
    join sep (first :: rest) ≠ "" := by
  cases rest with
  | nil => rwa [join_singleton]
  | cons second rest =>
    rw [join_cons sep first (by simp)]
    intro hempty
    rw [String.append_assoc, String.append_eq_empty_iff] at hempty
    exact h hempty.1

theorem pieces_ne_nil (sep : Char) (s : String) : pieces sep s ≠ [] := by
  simp [pieces, List.splitOn_ne_nil]

theorem pieces_append {sep : Char} (a b : String) :
    pieces sep (a ++ String.singleton sep ++ b) = pieces sep a ++ pieces sep b := by
  simp [pieces, String.toList_append, List.splitOn_append_cons_self]

theorem pieces_of_not_mem {sep : Char} {s : String} (h : sep ∉ s.toList) : pieces sep s = [s] := by
  simp [pieces, List.splitOn_eq_singleton h]

theorem not_mem_of_mem_splitOn {α : Type} [BEq α] [LawfulBEq α] {sep : α} {cs part : List α}
    (h : part ∈ cs.splitOn sep) : sep ∉ part := by
  induction cs generalizing part with
  | nil =>
    rw [List.splitOn_nil, List.mem_singleton] at h
    simp [h]
  | cons c cs ih =>
    rw [List.splitOn_cons_eq_if_modifyHead] at h
    obtain ⟨first, rest, hsplit⟩ := List.exists_cons_of_ne_nil (List.splitOn_ne_nil (a := sep) cs)
    rw [hsplit] at h ih
    split at h
    · rcases List.mem_cons.1 h with rfl | h
      · exact List.not_mem_nil
      · exact ih h
    · next hc =>
      rw [List.modifyHead_cons, List.mem_cons] at h
      rcases h with rfl | h
      · have hne : sep ≠ c := fun heq => hc (by simp [heq])
        exact fun hmem => (List.mem_cons.1 hmem).elim hne (ih (.head _))
      · exact ih (.tail _ h)

theorem not_mem_of_mem_pieces {sep : Char} {s piece : String} (h : piece ∈ pieces sep s) :
    sep ∉ piece.toList := by
  obtain ⟨part, hpart, rfl⟩ := List.mem_map.1 h
  rw [String.toList_ofList]
  exact not_mem_of_mem_splitOn hpart

def segments (s : String) : List String := (pieces '/' s).filter (· ≠ "")

theorem segments_append (a b : String) : segments (a ++ "/" ++ b) = segments a ++ segments b := by
  rw [segments, show ("/" : String) = String.singleton '/' from rfl, pieces_append,
    List.filter_append]
  rfl

theorem segments_empty : segments "" = [] := by
  rw [segments, pieces_of_not_mem (by simp)]; rfl

theorem segments_slash_append (s : String) : segments ("/" ++ s) = segments s := by
  have h := segments_append "" s
  rwa [segments_empty, List.nil_append, String.empty_append] at h

theorem segments_append_slash (s : String) : segments (s ++ "/") = segments s := by
  have h := segments_append s ""
  rwa [segments_empty, List.append_nil, String.append_empty] at h

def dropSlashes (s : String) : String :=
  String.ofList (s.toList.reverse.dropWhile (· == '/')).reverse

theorem segments_ofList_append_replicate (cs : List Char) (n : Nat) :
    segments (String.ofList (cs ++ List.replicate n '/')) = segments (String.ofList cs) := by
  induction n with
  | zero => simp
  | succ n ih =>
    rw [List.replicate_succ', ← List.append_assoc, String.ofList_append]
    exact (segments_append_slash _).trans ih

theorem segments_dropSlashes (s : String) : segments (dropSlashes s) = segments s := by
  have hsplit := List.takeWhile_append_dropWhile (p := (· == '/')) (l := s.toList.reverse)
  have htake : ∃ n, s.toList.reverse.takeWhile (· == '/') = List.replicate n '/' := by
    refine ⟨_, List.eq_replicate_iff.2 ⟨rfl, fun c hc => ?_⟩⟩
    have hall := List.all_takeWhile (p := (· == '/')) (l := s.toList.reverse)
    simpa using List.all_eq_true.1 hall c hc
  obtain ⟨n, hn⟩ := htake
  have hs : s.toList = (s.toList.reverse.dropWhile (· == '/')).reverse ++ List.replicate n '/' := by
    have := congrArg List.reverse hsplit
    rw [hn] at this
    simpa using this.symm
  calc segments (dropSlashes s)
      = segments (String.ofList ((s.toList.reverse.dropWhile (· == '/')).reverse ++
          List.replicate n '/')) := (segments_ofList_append_replicate _ n).symm
    _ = segments s := by rw [← hs, String.ofList_toList]

end NodeLaunch.Text
