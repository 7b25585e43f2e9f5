import TapeAdmin.Proofs.Console.Handlers
import TapeAdmin.Proofs.Device.Resolution

/-!
# Output for machines

A scan prints nothing. A listing for machines is the document of the inventory on lines of its own,
and a selection is the path of the device on a line of its own. The warning about missing
permissions comes behind the document and in front of the path; it is empty exactly if no node is
denied.
-/

namespace TapeAdmin

variable {σ : Type}

namespace World

/-- Nothing is printed. -/
def Quiet (before after : World σ) : Prop :=
  after.printed = before.printed

theorem chains_quiet : Chains (Quiet : World σ → World σ → Prop) where
  refl _ := rfl
  trans first second := second.trans first

end World

/-- Lines as one text. -/
def Text.ofLines (lines : List String) : String :=
  String.join (lines.map (· ++ "\n"))

theorem Text.ofLines_singleton (line : String) : ofLines [line] = line ++ "\n" := by
  simp [ofLines]

theorem Inventory.ofLines_warning_eq_empty_iff {inventory : Inventory} :
    Text.ofLines inventory.warning = "" ↔ inventory.denied = [] := by
  rw [warning, ← List.isEmpty_iff]
  cases inventory.denied.isEmpty with
  | true => simp [Text.ofLines]
  | false => simp [Text.ofLines, String.join]

namespace Host

variable (host : Host σ) (configuration : Configuration)

theorem printLines_printed (lines : List String) (world : World σ) :
    (printLines lines : Attempt σ Unit).run.run world =
      (.ok (), { world with printed := world.printed ++ Text.ofLines lines }) :=
  rfl

theorem quiet_discover (settings : DiscoverySettings) :
    Respects World.Quiet (host.discover settings) :=
  .discover World.chains_quiet host fun _ _ => rfl

/-- No path is denied exactly if the permission check denies no node of the directory. -/
theorem denied_discover_eq_nil_iff (settings : DiscoverySettings) (world : World σ) :
    ((host.discover settings).run world).1.denied = [] ↔
      ∀ node, (host.devices world.files).Holds node →
        (host.devices world.files).probe node.path ≠ .denied := by
  let directory := host.devices world.files
  have well_formed := (Discovery.lists_applyPolicy host settings directory world).wellFormed
  rw [Discovery.discover_run, List.eq_nil_iff_forall_not_mem]
  constructor
  · intro none_denied node held denied
    have inaccessible : node.accessible = false := by
      rcases held with ⟨_, _, entry, _, _, is_node⟩
      exact is_node.accessible_iff.mpr denied
    have placed := well_formed.denied_held node held inaccessible
    exact none_denied node.path
      ((well_formed.denied_iff node.path).mpr ⟨node, placed, inaccessible, rfl⟩)
  · intro none_denied path denied
    rcases (well_formed.denied_iff path).mp denied with ⟨node, placed, inaccessible, _⟩
    exact none_denied node (well_formed.node_held node placed)
      ((well_formed.accessible_iff node placed).mp inaccessible)

theorem performList_json_run (detailed : Bool) (world : World σ) :
    (host.performList configuration detailed true).run.run world =
      let scanned := (host.discover configuration.discovery).run world
      (.ok (), { scanned.2 with
        printed := world.printed ++ (scanned.1.document.render 0 ++ "\n") ++
          Text.ofLines scanned.1.warning }) := by
  have unprinted := quiet_discover host configuration.discovery world
  rw [performList, Attempt.run_bind_lift, if_pos rfl,
    Attempt.run_bind_of_ok (printLines_printed _ _), printLines_printed, Text.ofLines_singleton,
    ← unprinted]

/-- Where a device is chosen from a scan, the warning is printed on the way. -/
theorem resolveDevice_printed (target : Target) (world : World σ) :
    ((host.resolveDevice configuration target).run.run world).2.printed =
      world.printed ++
        if target.device.isSome then ""
        else Text.ofLines ((host.discover configuration.discovery).run world).1.warning := by
  rw [resolveDevice]
  cases target.device with
  | some device => exact String.append_empty.symm
  | none =>
      have unprinted := quiet_discover host configuration.discovery world
      dsimp only
      rw [Attempt.run_bind_lift, Attempt.run_bind_of_ok (printLines_printed _ _), ← unprinted]
      split
      · rfl
      · split <;> rfl

/-- A selection succeeds where a device is found, and prints its path. -/
theorem performSelect_run (target : Target) (world : World σ) :
    (host.performSelect configuration target).run.run world =
      let resolved := (host.resolveDevice configuration target).run.run world
      match resolved.1 with
      | .ok device =>
        (.ok (), { resolved.2 with printed := resolved.2.printed ++ (device.text ++ "\n") })
      | .error failure => (.error failure, resolved.2) := by
  rw [performSelect]
  rcases resolved : (host.resolveDevice configuration target).run.run world with ⟨result, after⟩
  cases result with
  | ok device =>
      rw [Attempt.run_bind_of_ok resolved, printLines_printed, Text.ofLines_singleton]
  | error failure => exact Attempt.run_bind_of_error resolved

theorem performSelect_of_ok {target : Target} {world : World σ} {device : FilePath}
    (resolved : ((host.resolveDevice configuration target).run.run world).1 = .ok device) :
    let ended := (host.performSelect configuration target).run.run world
    let warning := Text.ofLines ((host.discover configuration.discovery).run world).1.warning
    ended.1 = .ok () ∧
      ended.2.printed =
        world.printed ++ (if target.device.isSome then "" else warning) ++
          (device.text ++ "\n") := by
  dsimp only
  rw [performSelect_run, ← resolveDevice_printed]
  simp only [resolved, and_self]

/-- What is printed for machines. A listing as a document prints the document on lines of its own,
and behind it the warning. A selection that succeeds prints the path of the device on a line of its
own, and in front of it the warning, if the device was chosen from a scan. The warning is empty
exactly if the permission check denies no node of the directory. -/
theorem printed_for_machines (world : World σ) :
    let directory := host.devices world.files
    let inventory := ((host.discover configuration.discovery).run world).1
    let warning := Text.ofLines inventory.warning
    (∀ detailed,
      let ended := (host.performList configuration detailed true).run.run world
      ended.1 = .ok () ∧
      ended.2.printed = world.printed ++ (inventory.document.render 0 ++ "\n") ++ warning) ∧
    (∀ target,
      let resolved := ((host.resolveDevice configuration target).run.run world).1
      let ended := (host.performSelect configuration target).run.run world
      ended.1 = resolved.map (fun _ => ()) ∧
      ∀ device, resolved = .ok device →
        ended.2.printed = world.printed ++ (if target.device.isSome then "" else warning) ++
          (device.text ++ "\n")) ∧
    (warning = "" ↔ ∀ node, directory.Holds node → directory.probe node.path ≠ .denied) := by
  intro directory inventory warning
  refine ⟨?_, ?_, ?_⟩
  · intro detailed
    dsimp only
    rw [performList_json_run]
    exact ⟨rfl, rfl⟩
  · intro target
    refine ⟨?_, fun device resolved => (performSelect_of_ok host configuration resolved).2⟩
    rw [performSelect_run]
    dsimp only
    cases ((host.resolveDevice configuration target).run.run world).1 with
    | ok device => rfl
    | error failure => rfl
  · exact Inventory.ofLines_warning_eq_empty_iff.trans
      (denied_discover_eq_nil_iff host configuration.discovery world)

/-! ### A node without read permission beside others -/

theorem resolveDevice_twoDrives :
    (((Host.scanning .twoDrives .willing).resolveDevice {} {}).run.run (.start ())).1 =
      .ok ⟨"/dev/st0"⟩ := by
  rw [resolveDevice_of_preferred rfl (by rw [listedNodes_twoDrives]; rfl),
    if_neg (by decide +kernel)]

theorem warning_twoDrives :
    Text.ofLines (((Host.scanning .twoDrives .willing).discover {}).run (.start ())).1.warning ≠
      "" := by
  rw [ne_eq, Inventory.ofLines_warning_eq_empty_iff, denied_discover_eq_nil_iff]
  intro none_denied
  have held : DeviceDirectory.twoDrives.Holds ⟨⟨"/dev/nst0"⟩, 0, false, .default, false⟩ := by
    rw [← DeviceDirectory.mem_ranked_iff, DeviceDirectory.ranked_twoDrives]
    simp
  exact none_denied _ held (by decide +kernel)

/-- A device that is chosen from a scan, and one that is given by its path. -/
theorem printed_for_machines_twoDrives :
    let host := Host.scanning .twoDrives .willing
    let warning := Text.ofLines ((host.discover {}).run (.start ())).1.warning
    let given : Target := { device := some ⟨"/dev/st1"⟩ }
    ((host.performSelect {} {}).run.run (.start ())).2.printed = "" ++ warning ++ "/dev/st0\n" ∧
      ((host.performSelect {} given).run.run (.start ())).2.printed = "" ++ "" ++ "/dev/st1\n" := by
  intro host warning given
  rcases printed_for_machines host {} (.start ()) with ⟨_, selects, _⟩
  exact ⟨(selects {}).2 _ resolveDevice_twoDrives, (selects given).2 ⟨"/dev/st1"⟩ rfl⟩

/-- A node without read permission shows in the output for machines, although it is not the one that
is selected. -/
theorem printed_beside_denied :
    let host := Host.scanning .twoDrives .willing
    let inventory := ((host.discover {}).run (.start ())).1
    let listed := (host.performList {} false true).run.run (.start ())
    let selected := (host.performSelect {} {}).run.run (.start ())
    listed.2.printed ≠ inventory.document.render 0 ++ "\n" ∧
      ((host.resolveDevice {} {}).run.run (.start ())).1 = .ok ⟨"/dev/st0"⟩ ∧
      selected.1 = .ok () ∧ selected.2.printed ≠ "/dev/st0\n" := by
  intro host inventory listed selected
  rcases performSelect_of_ok host {} resolveDevice_twoDrives with ⟨succeeds, printed⟩
  refine ⟨?_, resolveDevice_twoDrives, succeeds, ?_⟩
  · have listed_printed : listed.2.printed =
        "" ++ (inventory.document.render 0 ++ "\n") ++ Text.ofLines inventory.warning :=
      congrArg (·.2.printed) (performList_json_run host {} false (.start ()))
    rw [listed_printed, String.empty_append, ne_eq, String.append_eq_left_iff]
    exact warning_twoDrives
  · have selected_printed : selected.2.printed =
        "" ++ Text.ofLines inventory.warning ++ "/dev/st0\n" :=
      printed
    rw [selected_printed, String.empty_append, ne_eq, String.append_eq_right_iff]
    exact warning_twoDrives

end Host

end TapeAdmin
