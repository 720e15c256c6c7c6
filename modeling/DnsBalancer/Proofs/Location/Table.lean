import DnsBalancer.Location.Table
import DnsBalancer.Proofs.Traversal

/-!
# What a location file comes to

A file gives all its rows, in order, or none: one subnet that cannot be read is enough.
-/
namespace DnsBalancer.LocationTable

/-- The entry says what the row says. -/
def Reads (row : String × String) (e : LocationEntry) : Prop :=
  Subnet.parse? row.1 = some e.subnet ∧ row.2 = e.location

/-- What is wrong with a file, or with what was read in its place. -/
inductive FileFault (path : String) : Except ReadFault String → ConfigError → Prop where
  | unreadable (fault : ReadFault) : FileFault path (.error fault) (.unreadable path fault)
  | notYaml {text : String} (unread : Yaml.readText? readRows text = none) :
      FileFault path (.ok text) .notYaml
  | row {text : String} {before after : List (String × String)} {row : String × String}
      (read : Yaml.readText? readRows text = some (before ++ row :: after))
      (sound : ∀ r ∈ before, Subnet.parse? r.1 ≠ none) (noSubnet : Subnet.parse? row.1 = none) :
      FileFault path (.ok text) (.invalidSubnet row.1)

/-- The table lists the rows of the file. -/
def Lists (t : LocationTable) (content : Except ReadFault String) : Prop :=
  ∃ text rows, content = .ok text ∧ Yaml.readText? readRows text = some rows ∧
    List.Forall₂ Reads rows t.entries

/-- A row by itself. -/
def readEntry (row : String × String) : Except ConfigError LocationEntry :=
  match Subnet.parse? row.1 with
  | some s => .ok ⟨s, row.2⟩
  | none => .error (.invalidSubnet row.1)

theorem readEntry_eq_ok_iff {row : String × String} {e : LocationEntry} :
    readEntry row = .ok e ↔ Reads row e := by
  obtain ⟨subnet, location⟩ := e
  rw [readEntry, Reads]
  cases Subnet.parse? row.1 <;> simp

theorem readEntry_eq_error_iff {row : String × String} {err : ConfigError} :
    readEntry row = .error err ↔ Subnet.parse? row.1 = none ∧ err = .invalidSubnet row.1 := by
  rw [readEntry]
  cases Subnet.parse? row.1 <;> simp [@eq_comm _ err]

theorem ofRows_eq (rows : List (String × String)) :
    ofRows rows = (rows.mapM readEntry).map mk := by
  change (rows.mapM readEntry >>= fun entries => .ok (mk entries)) = _
  cases rows.mapM readEntry <;> rfl

theorem ofRows_eq_ok_iff {rows : List (String × String)} {t : LocationTable} :
    ofRows rows = .ok t ↔ List.Forall₂ Reads rows t.entries := by
  obtain ⟨entries⟩ := t
  rw [ofRows_eq]
  have each := @mapM_eq_ok_iff _ _ _ readEntry rows entries
  simp only [readEntry_eq_ok_iff] at each
  rw [← each]
  cases rows.mapM readEntry <;> simp [Except.map]

theorem ofRows_eq_error_iff {rows : List (String × String)} {err : ConfigError} :
    ofRows rows = .error err ↔ ∃ before row after, rows = before ++ row :: after ∧
      (∀ r ∈ before, Subnet.parse? r.1 ≠ none) ∧ Subnet.parse? row.1 = none ∧
      err = .invalidSubnet row.1 := by
  have sound (r : String × String) : (∃ e, readEntry r = .ok e) ↔ Subnet.parse? r.1 ≠ none := by
    rw [readEntry]
    cases Subnet.parse? r.1 <;> simp
  rw [ofRows_eq]
  have first := @mapM_eq_error_iff _ _ _ readEntry rows err
  simp only [sound, readEntry_eq_error_iff] at first
  rw [← first]
  cases rows.mapM readEntry <;> simp [Except.map]

variable {path : String} {content : Except ReadFault String}

theorem load_eq_ok_iff {t : LocationTable} : load path content = .ok t ↔ t.Lists content := by
  constructor
  · intro success
    cases content with
    | error fault => cases success
    | ok text =>
      rw [load, parse] at success
      cases read : Yaml.readText? readRows text with
      | none =>
        rw [read] at success
        cases success
      | some rows =>
        rw [read] at success
        exact ⟨text, rows, rfl, read, ofRows_eq_ok_iff.mp success⟩
  · rintro ⟨text, rows, rfl, read, each⟩
    rw [load, parse, read]
    exact ofRows_eq_ok_iff.mpr each

theorem load_eq_error_iff {err : ConfigError} :
    load path content = .error err ↔ FileFault path content err := by
  constructor
  · intro failure
    cases content with
    | error fault =>
      obtain rfl := Except.error.inj failure
      exact .unreadable fault
    | ok text =>
      rw [load, parse] at failure
      cases read : Yaml.readText? readRows text with
      | none =>
        rw [read] at failure
        obtain rfl := Except.error.inj failure
        exact .notYaml read
      | some rows =>
        rw [read] at failure
        obtain ⟨before, row, after, rfl, sound, noSubnet, rfl⟩ := ofRows_eq_error_iff.mp failure
        exact .row read sound noSubnet
  · intro fault
    cases fault with
    | unreadable => rfl
    | notYaml unread => rw [load, parse, unread]
    | row read sound noSubnet =>
      rw [load, parse, read]
      exact ofRows_eq_error_iff.mpr ⟨_, _, _, rfl, sound, noSubnet, rfl⟩

/-- One row without a subnet is enough, wherever it stands. -/
theorem load_fails_of_row {text : String} {rows : List (String × String)} {row : String × String}
    (read : Yaml.readText? readRows text = some rows) (there : row ∈ rows)
    (noSubnet : Subnet.parse? row.1 = none) : ∃ err, load path (.ok text) = .error err := by
  rw [load, parse, read]
  cases loaded : ofRows rows with
  | error err => exact ⟨err, loaded⟩
  | ok t =>
    obtain ⟨e, _, own, _⟩ := exists_of_forall₂ (ofRows_eq_ok_iff.mp loaded).flip there
    rw [noSubnet] at own
    cases own

end DnsBalancer.LocationTable
