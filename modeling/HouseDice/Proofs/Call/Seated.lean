import HouseDice.Proofs.BetStep
import HouseDice.Proofs.Call.Accounts

/-!
# Who sits where

A call about a bet names its accounts by their place in a list. `Names` says
that the keys of some seats stand in the places that a request wants them in,
and `Seated` that the call also has the rights. `Holds` is about the ledger: an
open bet, its pool, its vault and its player belong together. In a sound ledger
that much is enough for every check that a call makes of the accounts.
-/

namespace HouseDice

open Address

variable {S : Set Purpose} {L : Ledger} {c : Call} {x : Seats} {b : Bet}
  {p : Pool}

/-! ## Names -/

/-- The call has the keys of these seats in the places that a request wants them
in. -/
def Call.Names (c : Call) (kind : Request.Kind) (x : Seats) : Prop :=
  ∀ place ∈ (Call.places kind).zipIdx,
    c.key? place.2 = some (x.key place.1.role)

theorem Call.Names.mem {kind : Request.Kind} (h : c.Names kind x)
    {place : Call.Place} (hplace : place ∈ Call.places kind) :
    x.key place.role ∈ c.accounts.map (·.key) := by
  obtain ⟨i, hi⟩ := List.mem_iff_getElem?.1 hplace
  exact Call.mem_of_key? (h (place, i) (List.mem_zipIdx_iff_getElem?.2 hi))

/-- A request about a bet wants to write the same four accounts, whichever it
is. -/
theorem Call.exists_writable_place {kind : Request.Kind}
    (hkind : kind ≠ .initializePool) :
    ∀ k ∈ [x.player, x.pool, x.vault, x.bet],
      ∃ place ∈ Call.places kind, x.key place.role = k ∧ place.writable := by
  have hrole : ∀ role ∈ [Role.player, Role.pool, Role.vault, Role.bet],
      ∃ place ∈ Call.places kind, place.role = role ∧ place.writable := by
    cases kind with
    | initializePool => exact absurd rfl hkind
    | placeBet => decide
    | resolveBet => decide
    | refundBet => decide
  intro k hk
  have hseat : k ∈ [Role.player, .pool, .vault, .bet].map x.key := hk
  obtain ⟨role, hmem, rfl⟩ := List.mem_map.1 hseat
  obtain ⟨place, hplace, rfl, hwritable⟩ := hrole role hmem
  exact ⟨place, hplace, rfl, hwritable⟩

theorem Call.Names.mem_seats {kind : Request.Kind} (h : c.Names kind x)
    (hkind : kind ≠ .initializePool) :
    ∀ k ∈ [x.player, x.pool, x.vault, x.bet], k ∈ c.accounts.map (·.key) := by
  intro k hk
  obtain ⟨place, hplace, rfl, _⟩ := Call.exists_writable_place hkind k hk
  exact h.mem hplace

theorem Call.Names.key?_bet {kind : Request.Kind} (h : c.Names kind x)
    (hkind : kind ≠ .initializePool) : c.key? 4 = some x.bet := by
  cases kind with
  | initializePool => exact absurd rfl hkind
  | placeBet => exact h (⟨.bet, false, true⟩, 4) (by simp [places])
  | resolveBet => exact h (⟨.bet, false, true⟩, 4) (by simp [places])
  | refundBet => exact h (⟨.bet, false, true⟩, 4) (by simp [places])

/-- A call names one set of seats. -/
theorem Call.Names.unique {kind : Request.Kind} {x' : Seats}
    (hkind : kind ≠ .initializePool) (h : c.Names kind x)
    (h' : c.Names kind x') : x = x' := by
  have hkey : ∀ role, (∃ place ∈ (places kind).zipIdx, place.1.role = role) →
      x.key role = x'.key role := by
    intro role hplace
    obtain ⟨place, hmem, rfl⟩ := hplace
    exact Option.some.inj ((h place hmem).symm.trans (h' place hmem))
  have hroles : ∀ role ∈ [Role.house, .player, .pool, .vault, .bet],
      ∃ place ∈ (places kind).zipIdx, place.1.role = role := by
    cases kind with
    | initializePool => exact absurd rfl hkind
    | placeBet => decide
    | resolveBet => decide
    | refundBet => decide
  obtain ⟨house, player, pool, vault, bet⟩ := x
  have hhouse := hkey .house (hroles _ (by simp))
  have hplayer := hkey .player (hroles _ (by simp))
  have hpool := hkey .pool (hroles _ (by simp))
  have hvault := hkey .vault (hroles _ (by simp))
  have hbet := hkey .bet (hroles _ (by simp))
  simp only [Seats.key] at hhouse hplayer hpool hvault hbet
  rw [hhouse, hplayer, hpool, hvault, hbet]

/-- The call is for this program, names these seats, and has the rights that the
request needs. -/
structure Call.Seated (c : Call) (kind : Request.Kind) (x : Seats) : Prop where
  program : c.program = Key.game
  named : c.Names kind x
  rights : ∀ place ∈ Call.places kind,
      (place.signer → c.rights.signs (x.key place.role))
    ∧ (place.writable → c.rights.writes (x.key place.role))

/-- Whose word a request needs. -/
def Seats.author (x : Seats) : Request.Kind → Key
  | .initializePool | .resolveBet => x.house
  | .placeBet | .refundBet => x.player

theorem Call.Seated.signed {kind : Request.Kind} (h : c.Seated kind x) :
    c.rights.signs (x.author kind) := by
  have hplace : ∃ place ∈ places kind, place.signer
      ∧ x.key place.role = x.author kind := by
    cases kind with
    | initializePool => exact ⟨⟨.house, true, true⟩, by simp [places], rfl, rfl⟩
    | placeBet => exact ⟨⟨.player, true, true⟩, by simp [places], rfl, rfl⟩
    | resolveBet => exact ⟨⟨.house, true, true⟩, by simp [places], rfl, rfl⟩
    | refundBet => exact ⟨⟨.player, true, true⟩, by simp [places], rfl, rfl⟩
  obtain ⟨place, hmem, hsigner, hkey⟩ := hplace
  rw [← hkey]
  exact (h.rights place hmem).1 hsigner

theorem Call.Seated.writes {kind : Request.Kind} (h : c.Seated kind x)
    (hkind : kind ≠ .initializePool) :
    ∀ k ∈ [x.player, x.pool, x.vault, x.bet], c.rights.writes k := by
  intro k hk
  obtain ⟨place, hplace, rfl, hwritable⟩ :=
    Call.exists_writable_place hkind k hk
  exact (h.rights place hplace).2 hwritable

/-- The list that a request asks for seats a call, whatever accounts follow. -/
theorem Call.seated_of_accounts {kind : Request.Kind} (more : List Access)
    (hprogram : c.program = Key.game)
    (haccounts : c.accounts = Call.accountsFor kind x.key ++ more) :
    c.Seated kind x where
  program := hprogram
  named place hplace := by
    have hat := List.mem_zipIdx_iff_getElem?.1 hplace
    have hlength : place.2 < (Call.accountsFor kind x.key).length := by
      rw [Call.accountsFor, List.length_map]
      exact (List.getElem?_eq_some_iff.1 hat).1
    rw [Call.key?, haccounts, List.getElem?_append_left hlength,
      Call.accountsFor, List.getElem?_map, hat]
    rfl
  rights place hplace := by
    have hmem : ⟨x.key place.role, place.signer, place.writable⟩
        ∈ c.accounts := by
      rw [haccounts]
      exact List.mem_append_left _ (List.mem_map.2 ⟨place, hplace, rfl⟩)
    refine ⟨fun hsigner => List.any_eq_true.2 ⟨_, hmem, ?_⟩,
      fun hwritable => List.any_eq_true.2 ⟨_, hmem, ?_⟩⟩
    · simp [hsigner]
    · simp [hwritable]

/-- A pool that is good passes for the table of its house. -/
theorem Ledger.GoodPool.table_check (h : L.GoodPool S x.pool p)
    (hhouse : p.house = x.house) (hvault : p.vault = x.vault)
    (hwrites : ∀ k ∈ [x.player, x.pool, x.vault, x.bet], c.rights.writes k) :
    Call.Table.check ⟨x.house, x.pool, x.vault, p⟩ c = .ok () := by
  have hpoolFind := create?_of_find? h.stands.find
  have hvaultFind := create?_of_find? h.stands.vaultFind
  rw [hhouse] at hpoolFind hvaultFind
  rw [hvault] at hvaultFind
  exact Call.Table.check_eq_ok_iff.2 ⟨hpoolFind, hwrites _ (by simp), hhouse,
    hvault, hvaultFind, hwrites _ (by simp)⟩

/-- An open bet with its pool, its vault and its player. -/
structure Ledger.Holds (L : Ledger) (x : Seats) (b : Bet)
    (p : Pool) : Prop where
  bet : L.bet? x.bet = some b
  pool : L.pool? x.pool = some p
  player : b.player = x.player
  betPool : b.pool = x.pool
  house : p.house = x.house
  vault : p.vault = x.vault

namespace Ledger.Holds

theorem goodPool (h : L.Holds x b p) (hL : Sound S L) : L.GoodPool S x.pool p :=
  hL.pool x.pool p h.pool

theorem stands (h : L.Holds x b p) (hL : Sound S L) :
    b.Stands S x.vault x.bet := by
  obtain ⟨p', hp', hstands⟩ := (hL.bet x.bet b h.bet).pool
  rw [h.betPool, h.pool, Option.some.injEq] at hp'
  rw [← h.vault, hp']
  exact hstands

theorem stand (h : L.Holds x b p) (hL : Sound S L) : x.Stand S b.seed where
  pool := by
    rw [← h.house]
    exact (h.goodPool hL).stands.pool
  vault := by
    rw [← h.house, ← h.vault]
    exact (h.goodPool hL).stands.vault
  bet := (h.stands hL).bet
  player := by
    rw [← h.player]
    exact (h.stands hL).notDerived

theorem table_check (h : L.Holds x b p) (hL : Sound S L)
    (hwrites : ∀ k ∈ [x.player, x.pool, x.vault, x.bet], c.rights.writes k) :
    Call.Table.check ⟨x.house, x.pool, x.vault, p⟩ c = .ok () :=
  (h.goodPool hL).table_check h.house h.vault hwrites

theorem bet_check (h : L.Holds x b p) (hL : Sound S L)
    (hwrites : ∀ k ∈ [x.player, x.pool, x.vault, x.bet], c.rights.writes k) :
    Call.OpenBet.check ⟨x.bet, x.player, b⟩ ⟨x.house, x.pool, x.vault, p⟩ c
      = .ok () :=
  Call.OpenBet.check_eq_ok_iff.2 ⟨create?_of_find? (h.stands hL).find,
    hwrites _ (by simp), h.player, h.betPool, (h.stand hL).player_ne_bet.symm⟩

theorem load_pool (h : L.Holds x b p) :
    View.load L.get Pool.record x.pool .pool = .ok p :=
  View.load_eq_ok_iff.2 h.pool

theorem load_bet (h : L.Holds x b p) :
    View.load L.get Bet.record x.bet .bet = .ok b :=
  View.load_eq_ok_iff.2 h.bet

theorem counted (h : L.Holds x b p) (hL : Sound S L) :
    1 ≤ p.openBets.toNat ∧ b.amount.toNat ≤ p.lockedStakes.toNat := by
  have hone := Ledger.measure_le_tally h.bet fun _ => 1
  have hstake := Ledger.measure_le_tally h.bet fun b => b.amount.toNat
  rw [h.betPool] at hone hstake
  rw [(h.goodPool hL).openBets, (h.goodPool hL).lockedStakes]
  exact ⟨hone, hstake⟩

/-- The counters can let go of the bet. -/
theorem released (h : L.Holds x b p) (hL : Sound S L) :
    ∃ openBets lockedStakes : UInt64,
    p.openBets.toNat = openBets.toNat + 1
      ∧ p.lockedStakes.toNat = lockedStakes.toNat + b.amount.toNat := by
  obtain ⟨hone, hstake⟩ := h.counted hL
  have hopenFits : p.openBets.toNat - 1 < UInt64.size := by
    have hlt := p.openBets.toNat_lt_size
    omega
  have hlockedFits : p.lockedStakes.toNat - b.amount.toNat < UInt64.size := by
    have hlt := p.lockedStakes.toNat_lt_size
    omega
  obtain ⟨openBets, hopen⟩ := Word.exists_toNat_eq hopenFits
  obtain ⟨lockedStakes, hlocked⟩ := Word.exists_toNat_eq hlockedFits
  exact ⟨openBets, lockedStakes, by omega, by omega⟩

end Ledger.Holds

end HouseDice
