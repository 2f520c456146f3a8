import NodeLaunch.Files.Tree
import NodeLaunch.Proofs.Record.Outcome

/-!
# Names under which processes run

A process runs under its display name and its number among the processes of that
name. A number has no dash, so the last dash of such a name parts the two, even if
the display names have dashes and digits of their own; and no two processes have
the display name and the number in common.
-/

namespace NodeLaunch.LaunchRecord

variable {resolver : Resolver} {files : Snapshot}

theorem execName_eq (displayName : String) (number : Nat) :
    execName displayName number = displayName ++ "-" ++ toString number := rfl

theorem dash_not_mem_number (number : Nat) : '-' ∉ (toString number).toList := by
  rw [Nat.toString_eq_repr, Nat.toList_repr]
  intro hdash
  exact absurd (Nat.isDigit_of_mem_toDigits (by decide) (by decide) hdash) (by decide)

theorem number_injective {number other : Nat} (h : toString number = toString other) :
    number = other := by
  have hdigits : Nat.toDigits 10 number = Nat.toDigits 10 other := by
    simpa only [Nat.toString_eq_repr, Nat.toList_repr] using congrArg String.toList h
  calc number = Nat.ofDigitChars 10 (Nat.toDigits 10 number) 0 :=
        Nat.ofDigitChars_ten_toDigits.symm
    _ = Nat.ofDigitChars 10 (Nat.toDigits 10 other) 0 := by rw [hdigits]
    _ = other := Nat.ofDigitChars_ten_toDigits

/-- The pieces between the dashes are those of the display name, and the number. -/
theorem pieces_execName (displayName : String) (number : Nat) :
    Text.pieces '-' (execName displayName number) =
      Text.pieces '-' displayName ++ [toString number] := by
  have happend : Text.pieces '-' (displayName ++ "-" ++ toString number) =
      Text.pieces '-' displayName ++ Text.pieces '-' (toString number) :=
    Text.pieces_append displayName (toString number)
  rw [execName_eq, happend, Text.pieces_of_not_mem (dash_not_mem_number number)]

theorem execName_inj {name other : String} {number otherNumber : Nat}
    (h : execName name number = execName other otherNumber) :
    name = other ∧ number = otherNumber := by
  have hpieces := congrArg (Text.pieces '-') h
  rw [pieces_execName, pieces_execName] at hpieces
  obtain ⟨hname, hnumber⟩ := List.append_inj' hpieces rfl
  constructor
  · rw [← Text.join_pieces '-' name, hname, Text.join_pieces]
  · exact number_injective (List.cons.inj hnumber).1

-- ---------------------------------------------------------------------------
-- Along the processes
-- ---------------------------------------------------------------------------

/-- The numbers of a name go on after those of the processes before. -/
theorem execName_of_mem_nodesAfter {earlier : List String} {specs : List ProcessSpec}
    {made : GeneratedNode} (h : made ∈ nodesAfter resolver files earlier specs) :
    ∃ name number, made.node.execName = some (execName name number) ∧
      earlier.count name < number := by
  induction specs generalizing earlier with
  | nil => cases h
  | cons spec rest ih =>
    rcases List.mem_cons.1 h with rfl | h
    · exact ⟨spec.displayName, _, rfl, Nat.lt_succ_self _⟩
    · obtain ⟨name, number, hname, hlt⟩ := ih h
      exact ⟨name, number, hname, Nat.lt_of_le_of_lt List.count_le_count_cons hlt⟩

theorem nodup_execName_nodesAfter (earlier : List String) (specs : List ProcessSpec) :
    ((nodesAfter resolver files earlier specs).map (·.node.execName)).Nodup := by
  induction specs generalizing earlier with
  | nil => exact List.nodup_nil
  | cons spec rest ih =>
    rw [nodesAfter, List.map_cons, List.nodup_cons]
    refine ⟨fun hmem => ?_, ih (spec.displayName :: earlier)⟩
    obtain ⟨made, hmade, heq⟩ := List.mem_map.1 hmem
    obtain ⟨name, number, hname, hlt⟩ := execName_of_mem_nodesAfter hmade
    -- The first process of the rest with this name has counted the one in front.
    obtain ⟨rfl, rfl⟩ := execName_inj (Option.some.inj (hname.symm.trans heq))
    rw [numberAfter, List.count_cons_self] at hlt
    exact Nat.lt_irrefl _ hlt

/-- A node's name is the display name of its process and how many processes up to
and with it have that display name. The names of a record's nodes are distinct. -/
theorem execName_of_generate {description : LaunchDescription} {record : LaunchRecord}
    (h : (generate resolver files description).value = .ok record) :
    record.nodes.length = description.processes.length ∧
    (∀ (i : Nat) (spec : ProcessSpec), description.processes[i]? = some spec →
      ∃ node, record.nodes[i]? = some node ∧
        node.execName = some (spec.displayName ++ "-" ++ toString
          ((description.processes.take (i + 1)).countP (·.displayName = spec.displayName)))) ∧
    (record.nodes.map (·.execName)).Nodup := by
  refine ⟨length_nodes h, fun i spec hi => ⟨_, getElem?_nodes h hi, ?_⟩, ?_⟩
  · rw [numbered, execName_eq, List.count_eq_countP, List.countP_map]
    congr
  · obtain ⟨-, rfl⟩ := generate_eq_ok_iff.1 h
    rw [ofNodes, List.map_map]
    exact nodup_execName_nodesAfter [] description.processes

def lookalikes : List ProcessSpec :=
  ["a", "a-1", "a", "a-1-1"].map fun displayName =>
    { package := "demo", executable := "talker", displayName, parameterFiles := []
      pseudoTty := true, outputMode := .screen }

theorem execName_of_generate_lookalikes :
    ∃ record, (generate (Locator.table (.ofList [("demo", ⟨"/opt/share/demo"⟩)]))
        (FileTree.empty []).snapshot (.ofProcesses lookalikes)).value = .ok record ∧
      (∃ node, record.nodes[2]? = some node ∧ node.execName = some "a-2") ∧
      (record.nodes.map (·.execName)).Nodup := by
  obtain ⟨record, h⟩ : ∃ record,
      (generate (Locator.table (.ofList [("demo", ⟨"/opt/share/demo"⟩)]))
        (FileTree.empty []).snapshot (.ofProcesses lookalikes)).value = .ok record := by
    refine ⟨_, generate_eq_ok_iff.2 ⟨fun spec hspec => ?_, rfl⟩⟩
    rw [LaunchDescription.processes_ofProcesses] at hspec
    obtain ⟨displayName, -, rfl⟩ := List.mem_map.1 hspec
    rfl
  obtain ⟨-, hnames, hnodup⟩ := execName_of_generate h
  obtain ⟨node, hnode, hname⟩ := hnames 2 _ rfl
  exact ⟨record, h, ⟨node, hnode, hname.trans (by decide +kernel)⟩, hnodup⟩

end NodeLaunch.LaunchRecord
