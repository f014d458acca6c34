import ChatModeration.Config.File
import ChatModeration.Proofs.Config.Limits
import ChatModeration.Proofs.Config.RoundTrip

/-!
# Files of configurations

A configuration is loaded from a file just when the directory offers it there (`Directory.load_eq_ok_iff`).  A file in
which a configuration has been saved holds it (`Directory.holds_of_save`), and what a file holds is loaded if it can be
read and is valid (`Directory.Holds.load`).
-/

namespace ChatModeration.Directory

variable {d d' : Directory} {name : String} {c : Config}

/-! ### Reading -/

/-- Whether a file can be read and holds a configuration, which is valid. -/
def Offers (d : Directory) (name : String) (c : Config) : Prop :=
  ∃ content, d.read name = .ok content ∧ content.config? = some c ∧ c.validate = .ok ()

/-- Whether a file holds a configuration. -/
def Holds (d : Directory) (name : String) (c : Config) : Prop :=
  ∃ content, d.content? name = some content ∧ content.config? = some c

theorem of_mapError {ε ε' α : Type} {f : ε → ε'} {x : Except ε α} {a : α} (h : x.mapError f = .ok a) :
    x = .ok a := by
  cases x with
  | error e => cases h
  | ok b => exact congrArg Except.ok (Except.ok.inj h)

theorem of_mapError_eq_error {ε ε' α : Type} {f : ε → ε'} {x : Except ε α} {e : ε'} (h : x.mapError f = .error e) :
    ∃ e', e = f e' := by
  cases x with
  | error e' => exact ⟨e', (Except.error.inj h).symm⟩
  | ok a => cases h

theorem load_eq_ok_iff : d.load name = .ok c ↔ d.Offers name c := by
  constructor
  · intro h
    obtain ⟨content, hread, h⟩ := Config.bind_eq_ok h
    cases hconfig : content.config? with
    | none =>
      rw [hconfig] at h
      cases h
    | some c' =>
      rw [hconfig] at h
      obtain ⟨_, hvalid, h⟩ := Config.bind_eq_ok h
      obtain rfl := Except.ok.inj h
      exact ⟨content, of_mapError hread, hconfig, of_mapError hvalid⟩
  · rintro ⟨content, hread, hconfig, hvalid⟩
    simp [load, hread, hconfig, hvalid, Except.mapError, bind, Except.bind, pure, Except.pure]

/-- A file is not loaded if it cannot be read or decoded, or if what it holds is not valid. -/
theorem of_load_eq_error {e : LoadError} (h : d.load name = .error e) :
    (∃ fault, e = .notRead (d.pathOf name) fault) ∨ e = .notDecoded (d.pathOf name) ∨
      ∃ problem, e = .invalid problem := by
  unfold load at h
  cases hread : d.read name with
  | error fault =>
    rw [hread] at h
    exact .inl ⟨fault, (Except.error.inj h).symm⟩
  | ok content =>
    rw [hread] at h
    simp only [Except.mapError, bind, Except.bind] at h
    split at h
    · exact .inr (.inl (Except.error.inj h).symm)
    · split at h
      · next e' hvalid =>
        obtain rfl := Except.error.inj h
        exact .inr (.inr (of_mapError_eq_error hvalid))
      · cases h

theorem read_eq_ok_iff {content : FileContent} :
    d.read name = .ok content ↔ d.content? name = some content ∧ d.isReadable = true := by
  rw [read]
  cases d.content? name with
  | none => simp
  | some content' => cases d.isReadable <;> simp

theorem Offers.holds (h : d.Offers name c) : d.Holds name c := by
  obtain ⟨content, hread, hconfig, -⟩ := h
  exact ⟨content, (read_eq_ok_iff.1 hread).1, hconfig⟩

/-- What a file holds is loaded if it can be read and is valid. -/
theorem Holds.load (h : d.Holds name c) (hreadable : d.isReadable = true) (hvalid : c.validate = .ok ()) :
    d.load name = .ok c := by
  obtain ⟨content, hcontent, hconfig⟩ := h
  exact load_eq_ok_iff.2 ⟨content, read_eq_ok_iff.2 ⟨hcontent, hreadable⟩, hconfig, hvalid⟩

theorem Holds.has (h : d.Holds name c) : d.has name = true := by
  obtain ⟨content, hcontent, -⟩ := h
  rw [Directory.has, hcontent]
  rfl

/-! ### Writing -/

/-- A directory that is made has the files that there have been before: none. -/
theorem content?_create (h : d.create = .ok d') (name : String) : d'.content? name = d.content? name := by
  unfold create at h
  split at h
  · obtain rfl := Except.ok.inj h
    rfl
  · next hthere =>
    split at h
    · obtain rfl := Except.ok.inj h
      rw [content?, content?, if_neg hthere]
      rfl
    · contradiction

/-- What is written to a file is in it, and can be read as before. -/
theorem of_write {content : FileContent} (h : d.write name content = .ok d') :
    d'.content? name = some content ∧ d'.isThere = true ∧ d'.isReadable = d.isReadable := by
  unfold write at h
  split at h
  · contradiction
  · next hthere =>
    split at h
    · contradiction
    · obtain rfl := Except.ok.inj h
      have hthere : d.isThere = true := by simpa using hthere
      refine ⟨?_, hthere, rfl⟩
      rw [content?, if_pos hthere, List.lookup_cons_self]

/-- A file in which a configuration has been saved holds it. -/
theorem holds_of_save (h : d.save name c = .ok d') : d'.Holds name c := by
  refine ⟨.saved c.toJson, (of_write (of_mapError h)).1, ?_⟩
  rw [FileContent.config?, Config.inverts_toJson c]
  rfl

/-- A directory in which files can be read and written. -/
structure IsOpen (d : Directory) : Prop where
  isThere : d.isThere = true
  isReadable : d.isReadable = true
  isWritable : d.isWritable = true

/-- In an open directory a configuration is saved. -/
theorem IsOpen.save (h : d.IsOpen) (name : String) (c : Config) : ∃ d', d.save name c = .ok d' :=
  ⟨_, by simp [Directory.save, write, h.isThere, h.isWritable, Except.mapError]; rfl⟩

end ChatModeration.Directory
