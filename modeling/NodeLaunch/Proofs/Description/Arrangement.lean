import NodeLaunch.Proofs.Description.RoundTrip

/-!
# Descriptions in other arrangements

The members of a description's objects may come in any order, an action's kind
included, and among members that nobody asks for. Every JSON text of such an
arrangement is decoded to the description.
-/

namespace NodeLaunch

open Json Json.Decoder

theorem ProcessSpec.isFixed_members (spec : ProcessSpec) (files : List String) :
    ∀ member ∈ spec.members files, member.2.IsFixed := by
  have hfiles : (array (files.map .string)).IsFixed :=
    isFixed_array (List.forall_mem_map.2 fun file _ => isFixed_string file)
  simp [members, hfiles, isFixed_string, isFixed_bool]

theorem LaunchAction.reads_rearranged {action : LaunchAction} {json given : Json}
    (haction : action.toJson = .ok json) (h : Rearranged json given) :
    decoder.Reads 2 given action := by
  obtain ⟨spec⟩ := action
  obtain ⟨files, hfiles, rfl⟩ := toJson_eq_ok_iff.1 haction
  cases h with
  | object hmembers harranged =>
    cases hmembers with
    | cons htype hfields =>
      cases htype with
      | mk _ hkind =>
        cases hkind
        rw [members_eq_of_isFixed (spec.isFixed_members files) hfields] at harranged
        exact reads_members hfiles harranged

namespace LaunchDescription

theorem reads_items {actions : List LaunchAction} {items others : List Json}
    (hactions : List.Forall₂ (fun action item => action.toJson = .ok item) actions items)
    (h : List.Forall₂ Rearranged items others) :
    List.Forall₂ (LaunchAction.decoder.Reads 2) others actions := by
  induction hactions generalizing others with
  | nil =>
    cases h
    exact .nil
  | cons haction _ ih =>
    cases h with
    | cons hitem hrest => exact .cons (LaunchAction.reads_rearranged haction hitem) (ih hrest)

theorem reads_rearranged {description : LaunchDescription} {json given : Json}
    (hjson : description.toJson = .ok json) (h : Rearranged json given) :
    decoder.Reads 4 given description := by
  obtain ⟨items, hactions, rfl⟩ := toJson_eq_ok_iff.1 hjson
  cases h with
  | object hmembers harranged =>
    cases hmembers with
    | cons hmember hnone =>
      cases hnone
      cases hmember with
      | mk _ harray =>
        cases harray with
        | array hitems => exact reads_actions (reads_items hactions hitems) harranged

/-- Every JSON text of a description is decoded to it, in whatever order the members
of its objects are and whatever else is among them. -/
theorem ofText_of_rearranged {description : LaunchDescription} {json given : Json}
    (hjson : description.toJson = .ok json) (h : Rearranged json given) {text : String}
    (htext : WrittenText text given.tree) : ofText text = .ok description :=
  decodeText_of_ofText (reads_rearranged hjson h) (by decide)
    (Reading.ofText_of_writtenText htext)

def driverSpec : ProcessSpec := ⟨"p", "driver", "front", [⟨"a.yaml"⟩], true, .screen⟩

def reversedAction : List (String × Json) :=
  ("seen", .bool true) ::
    (("type", .string "process") :: driverSpec.members ["a.yaml"]).reverse

def reversedDriver : Json :=
  .object [("type", .string "launch"), ("actions", .array [.object reversedAction]),
    ("note", .null)]

theorem arranged_reversedAction :
    Arranged (("type", .string "process") :: driverSpec.members ["a.yaml"]) reversedAction := by
  refine ⟨[("seen", .bool true)], ?_, ?_⟩
  · exact ((List.reverse_perm _).cons _).trans (List.perm_append_singleton _ _).symm
  · rw [List.forall_mem_singleton]
    exact ⟨by decide, rfl⟩

theorem ofText_of_rearranged_reversed :
    ∃ json, toJson ⟨[.process driverSpec]⟩ = .ok json ∧ Rearranged json reversedDriver ∧
      WrittenText reversedDriver.pretty reversedDriver.tree ∧
      ofText reversedDriver.pretty = .ok ⟨[.process driverSpec]⟩ := by
  have hactions : Arranged [("actions", .array [.object reversedAction])]
      [("type", .string "launch"), ("actions", .array [.object reversedAction]),
        ("note", .null)] := by
    refine ⟨[("type", .string "launch"), ("note", .null)], List.Perm.swap _ _ _, ?_⟩
    rw [List.forall_mem_cons, List.forall_mem_singleton]
    exact ⟨⟨by decide, rfl⟩, by decide, rfl⟩
  have haction : (LaunchAction.process driverSpec).toJson =
      .ok (.object (("type", .string "process") :: driverSpec.members ["a.yaml"])) :=
    LaunchAction.toJson_eq_ok_iff.2 ⟨["a.yaml"], rfl, rfl⟩
  have hjson : toJson ⟨[.process driverSpec]⟩ = .ok (.object [("actions", .array
      [.object (("type", .string "process") :: driverSpec.members ["a.yaml"])])]) :=
    toJson_eq_ok_iff.2 ⟨_, .cons haction .nil, rfl⟩
  have hrearranged : Rearranged (.object [("actions", .array
      [.object (("type", .string "process") :: driverSpec.members ["a.yaml"])])]) reversedDriver :=
    .object (.cons (.mk "actions" (.array
      (.cons (.object (rearranged_members _) arranged_reversedAction) .nil))) .nil) hactions
  have htext : WrittenText reversedDriver.pretty reversedDriver.tree :=
    writtenText_pretty (by decide)
  exact ⟨_, hjson, hrearranged, htext, ofText_of_rearranged hjson hrearranged htext⟩

end LaunchDescription

end NodeLaunch
