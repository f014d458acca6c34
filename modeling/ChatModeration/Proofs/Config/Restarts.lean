import ChatModeration.Proofs.Config.Publication

/-!
# Starts after a save

What is saved is what a later start in the same directory takes over (`restarts_of_save`).
-/

namespace ChatModeration.ConfigManager

/--
What is saved is what is loaded: a valid configuration, whatever its parts are, is loaded from its file as it has been
saved, and a manager that starts in the directory publishes the same snapshot and finds as many patterns that cannot be
used.  The start succeeds unless the directory cannot be watched.
-/
theorem restarts_of_save {m : ConfigManager} {c : Config} (hvalid : c.validate = .ok ()) (h : m.directory.IsOpen)
    (watchFault : Option String) :
    let saved := m.save c
    let restarted := (ofDirectory saved.manager.directory).start watchFault
    saved.result = .ok () ∧ saved.manager.published = .compile c ∧
      saved.changes = [.updated fileName (Snapshot.errors c).length] ∧
      saved.manager.load = .ok c ∧
      (watchFault = none → restarted.result = .ok ()) ∧ restarted.manager.published = .compile c ∧
      restarted.changes = saved.changes ++ [.reloaded [fileName]] := by
  obtain ⟨d, hsave⟩ := h.save fileName c
  obtain ⟨-, hthere, hreadable⟩ := Directory.of_write (Directory.of_mapError hsave)
  have hholds : d.Holds fileName c := Directory.holds_of_save hsave
  have hload : d.load fileName = .ok c := hholds.load (hreadable.trans h.isReadable) hvalid
  have hcreate : d.create = .ok d := by rw [Directory.create, if_pos hthere]
  have hsaved : m.save c = { m with directory := d }.publish fileName c := by
    simp only [save, hvalid, hsave]
  have hrestarted : (ofDirectory d).start watchFault =
      started fileName watchFault ((ofDirectory d).publish fileName c) := by
    simp only [start, ofDirectory, hcreate, hasFile, load, hholds.has, hload, if_true]
  intro saved restarted
  have hdirectory : saved.manager.directory = d := congrArg (·.manager.directory) hsaved
  have hstart : restarted = started fileName watchFault ((ofDirectory d).publish fileName c) := by
    rw [← hrestarted, ← hdirectory]
  rw [hstart, show saved = _ from hsaved]
  cases watchFault with
  | none => exact ⟨rfl, rfl, rfl, hload, fun _ => rfl, rfl, rfl⟩
  | some reason =>
    have hfault : some reason ≠ none := Option.some_ne_none reason
    exact ⟨rfl, rfl, rfl, hload, fun hnone => absurd hnone hfault, rfl, rfl⟩

/-- Rules with and without a pattern, a group, and exceptions in all lists; several patterns cannot be used. -/
def variedConfig : Config :=
  let odd : ExceptionEntry :=
    { name := "a: \"b\"\n", pattern := some "~/x", messageLimit := 18446744073709551615, punishments := [.timeout 0] }
  let plain : ExceptionEntry :=
    { name := "-", options := { exact := true, caseSensitive := true }, words := ["", "null"], messageLimit := 1
      punishments := [.ban], resetSeconds := 0 }
  { mode := .onlineOnly
    rules :=
      [{ name := "#", options := { exemptVip := true }, words := ["yes", "~"], punishments := [.delete, .timeout 30] },
        { name := "'", pattern := some "(", punishments := [.ban] }]
    groups := [{ name := "é", words := ["w"], patterns := ["~/p/z"], punishments := [.delete] }]
    spam :=
      { standard := { exceptions := [odd, plain], emote := { enabled := false, exceptions := [plain] } }
        vip := { exceptions := [plain], emote := { exceptions := [odd] } } } }

/-- A configuration with four patterns that cannot be used is loaded as it has been saved. -/
theorem restarts_of_save_varied :
    let m := ofDirectory (Directory.empty "config" true)
    variedConfig.validate = .ok () ∧ m.directory.IsOpen ∧
      (m.save variedConfig).changes = [.updated "moderation.yaml" 4] ∧
      (m.save variedConfig).manager.load = .ok variedConfig ∧
      ((ofDirectory (m.save variedConfig).manager.directory).start none).manager.published =
        .compile variedConfig := by
  intro m
  have hvalid : variedConfig.validate = .ok () := by decide +kernel
  have hopen : m.directory.IsOpen := ⟨rfl, rfl, rfl⟩
  obtain ⟨-, -, hchanges, hload, -, hpublished, -⟩ := restarts_of_save hvalid hopen none
  have herrors : (Snapshot.errors variedConfig).length = 4 := by decide +kernel
  rw [herrors] at hchanges
  exact ⟨hvalid, hopen, hchanges, hload, hpublished⟩

end ChatModeration.ConfigManager
