import HouseDice.Ledger.Run
import HouseDice.Proofs.Ledger.Writes

/-!
# The accounts that a call names

Whatever a call may be, once it has gone well the keys it worked with stood in
its list of accounts, those that had to sign signed, and those that had to be
writable were. The table and the open bet add that the accounts belong together
as the stored pool and the stored bet say. All of that is a conjunction of plain
facts, and here each step is turned into its facts.
-/

namespace HouseDice

namespace Call

variable {c : Call} {i : Nat} {role : Role} {k : Key} {u : Unit}

/-! ## Taking accounts -/

def key? (c : Call) (i : Nat) : Option Key := c.accounts[i]?.map (·.key)

theorem mem_of_key? (h : c.key? i = some k) : k ∈ c.accounts.map (·.key) := by
  obtain ⟨a, ha, rfl⟩ := Option.map_eq_some_iff.1 h
  exact List.mem_map_of_mem (List.mem_of_getElem? ha)

theorem take_eq_ok_iff : c.take i role = .ok k ↔ c.key? i = some k :=
  demand_eq_ok_iff

theorem takeNew_eq_ok_iff : c.takeNew i = .ok k ↔ c.key? i = some k :=
  demand_eq_ok_iff

theorem takeSigner_eq_ok_iff :
    c.takeSigner i role = .ok k ↔ c.key? i = some k ∧ c.rights.signs k := by
  simp only [takeSigner, bind_eq_ok_iff, take_eq_ok_iff, ensure_eq_ok_iff,
    exists_const, pure, Except.pure, Except.ok.injEq]
  constructor
  · intro h
    obtain ⟨_, hkey, hsigns, rfl⟩ := h
    exact ⟨hkey, hsigns⟩
  · intro h
    exact ⟨k, h.1, h.2, rfl⟩

theorem takeSystemProgram_eq_ok_iff :
    c.takeSystemProgram i = .ok u ↔ c.key? i = some Key.system := by
  simp only [takeSystemProgram, bind_eq_ok_iff, take_eq_ok_iff,
    ensure_eq_ok_iff]
  constructor
  · intro h
    obtain ⟨_, hkey, rfl⟩ := h
    exact hkey
  · intro h
    exact ⟨_, h, rfl⟩

theorem mayWrite_eq_ok_iff : c.mayWrite k role = .ok u ↔ c.rights.writes k :=
  ensure_eq_ok_iff

/-! ## Accounts that belong together -/

theorem Table.check_eq_ok_iff {t : Table} :
    t.check c = .ok u ↔
    Address.create? (.pool t.house) t.state.bump = some t.pool
      ∧ c.rights.writes t.pool ∧ t.state.house = t.house
      ∧ t.state.vault = t.vault
      ∧ Address.create? (.vault t.house) t.state.vaultBump = some t.vault
      ∧ c.rights.writes t.vault := by
  simp only [check, bind_eq_ok_iff, ensure_eq_ok_iff, mayWrite_eq_ok_iff,
    exists_const]

theorem OpenBet.check_eq_ok_iff {b : OpenBet} {t : Table} :
    b.check t c = .ok u ↔
    Address.create? (.bet t.vault b.state.seed) b.state.bump = some b.key
      ∧ c.rights.writes b.key ∧ b.state.player = b.player
      ∧ b.state.pool = t.pool
      ∧ b.key ≠ b.player := by
  simp only [check, bind_eq_ok_iff, ensure_eq_ok_iff, mayWrite_eq_ok_iff,
    exists_const]

end Call

/-! ## Closing an account -/

theorem Effects.close_eq_ok_iff {e e' : Effects} {key target : Key} :
    e.close key target = .ok e' ↔ ∃ sum : UInt64,
      sum.toNat = (e.view target).lamports.toNat + (e.view key).lamports.toNat
        ∧ e' = { e with
          view := (e.view.put target { e.view target with lamports := sum }).put
            key Account.blank
        } := by
  simp only [close, View.close, bind_eq_ok_iff, demand_eq_ok_iff,
    Option.map_eq_some_iff, Word.add?_eq_some_iff, pure, Except.pure,
    Except.ok.injEq]
  constructor
  · intro h
    obtain ⟨_, ⟨sum, hsum, rfl⟩, rfl⟩ := h
    exact ⟨sum, hsum, rfl⟩
  · intro h
    obtain ⟨sum, hsum, rfl⟩ := h
    exact ⟨_, ⟨sum, hsum, rfl⟩, rfl⟩

/-! ## What becomes of the ledger -/

theorem Call.effects_eq_ok_iff {c : Call} {slot : UInt64} {v : View}
    {e : Effects} :
    c.effects slot v = .ok e ↔ c.program = Key.game ∧ ∃ r,
      Request.decode c.data = .ok r ∧ r.run c slot v = .ok e := by
  simp only [effects, bind_eq_ok_iff, ensure_eq_ok_iff, mapError_eq_ok_iff,
    exists_const]

namespace Ledger

variable {L : Ledger} {c : Call}

theorem run_of_ok {e : Effects} (h : c.effects L.slot L.get = .ok e) :
    (L.run c).result = .ok (L.commit (c.accounts.map (·.key)) e.view,
      e.event) := by
  rw [run, h]

theorem run_of_error {f : Failure} (h : c.effects L.slot L.get = .error f) :
    (L.run c).result = .error f := by
  rw [run, h]

theorem effects_of_run {M : Ledger} {event : Event}
    (h : (L.run c).result = .ok (M, event)) :
    ∃ e, c.effects L.slot L.get = .ok e
      ∧ M = L.commit (c.accounts.map (·.key)) e.view
      ∧ event = e.event := by
  cases he : c.effects L.slot L.get with
  | error f =>
    rw [run_of_error he] at h
    cases h
  | ok e =>
    rw [run_of_ok he, Except.ok.injEq, Prod.mk.injEq] at h
    exact ⟨e, rfl, h.1.symm, h.2.symm⟩

@[simp]
theorem slot_after (L : Ledger) (c : Call) : (L.after c).slot = L.slot := by
  cases h : c.effects L.slot L.get with
  | error f => rw [after, run_of_error h]
  | ok e =>
    rw [after, run_of_ok h]
    exact slot_commit L _ _

end Ledger

end HouseDice
