import HouseDice.Proofs.Pristine
import HouseDice.Proofs.Solvency

/-!
# When a pool is opened

Three questions decide whether a house's pool is opened: has the house none yet,
are there first funds at all, and can the house pay for them together with what
the two new accounts lack of their rent. Lamports that somebody sent ahead to
the pool's or the vault's address lower that price, each up to the rent of its
account, and what lies above the rent stays with the account.

Only the pool stands in the way of a second one. The vault is left as an account
of the system program without data, and that is also what its address was before
anybody opened anything.
-/

namespace HouseDice

open Address

variable {S : Set Purpose} {L M : Ledger} {c : Call} {x : Seats} {p : Pool}
  {amount : UInt64} {bump vaultBump : UInt8} {event : Event}

/-! ## What the call says -/

/-- The call asks to open the pool of the house in its seat, with this much in
the vault. -/
structure Call.Proposes (S : Set Purpose) (c : Call) (x : Seats)
    (amount : UInt64) (bump vaultBump : UInt8) : Prop where
  lawful : c.Lawful S
  decoded : Request.decode c.data = .ok (.initializePool amount)
  seated : c.Seated .initializePool x
  find : find? (.pool x.house) = some (x.pool, bump)
  vaultFind : find? (.vault x.house) = some (x.vault, vaultBump)

namespace Call.Proposes

theorem named (h : c.Proposes S x amount bump vaultBump) :
    c.key? 0 = some x.pool
      ∧ c.key? 1 = some x.vault ∧ c.key? 2 = some x.house
      ∧ c.key? 3 = some Key.system :=
  ⟨h.seated.named (⟨.pool, false, true⟩, 0) (by simp [places]),
    h.seated.named (⟨.vault, false, true⟩, 1) (by simp [places]),
    h.seated.named (⟨.house, true, true⟩, 2) (by simp [places]),
    h.seated.named (⟨.systemProgram, false, false⟩, 3) (by simp [places])⟩

theorem writes (h : c.Proposes S x amount bump vaultBump) :
    c.rights.writes x.pool ∧ c.rights.writes x.vault
      ∧ c.rights.writes x.house :=
  ⟨(h.seated.rights ⟨.pool, false, true⟩ (by simp [places])).2 rfl,
    (h.seated.rights ⟨.vault, false, true⟩ (by simp [places])).2 rfl,
    (h.seated.rights ⟨.house, true, true⟩ (by simp [places])).2 rfl⟩

theorem pool (h : c.Proposes S x amount bump vaultBump) :
    Of S (.pool x.house) x.pool :=
  ⟨(h.lawful.house_mem h.decoded h.named.2.2.1).1, bump, h.find⟩

theorem vault (h : c.Proposes S x amount bump vaultBump) :
    Of S (.vault x.house) x.vault :=
  ⟨(h.lawful.house_mem h.decoded h.named.2.2.1).2, vaultBump, h.vaultFind⟩

theorem house_ne_vault (h : c.Proposes S x amount bump vaultBump) :
    x.house ≠ x.vault :=
  h.vault.ne_of_not_derived (h.lawful.signer _ h.seated.signed).2

/-- If the call goes well, it has opened the pool that it asked for. -/
theorem founds (h : c.Proposes S x amount bump vaultBump) (hS : Apart S)
    (hL : Sound S L) (hrun : (L.run c).result = .ok (M, event)) :
    ∃ p, L.Founds S c x.pool p amount M ∧ p.house = x.house ∧ p.vault = x.vault
      ∧ Pool.create x.house bump x.vault vaultBump L.slot amount = .ok p
      ∧ event = .poolInitialized x.pool x.house x.vault amount := by
  obtain ⟨hpool, hvault, hhouse, _⟩ := h.named
  obtain ⟨pool, p, hstep, hevent⟩ :=
    (Ledger.change_of_run hS hL h.lawful hrun).founds_of_decoded h.decoded
  obtain ⟨rfl, hsameHouse, hsameVault, hcreated⟩ :=
    hstep.of_named hpool hvault hhouse h.find h.vaultFind
  rw [hsameHouse, hsameVault] at hevent
  exact ⟨p, hstep, hsameHouse, hsameVault, hcreated, hevent⟩

end Call.Proposes

/-! ## What it costs -/

/-- What a house pays for its pool: what the two accounts lack of their rent,
and the funds. -/
def Ledger.outlay (L : Ledger) (x : Seats) (amount : UInt64) : ℕ :=
  (1809600 - (L.get x.pool).lamports.toNat)
    + (890880 - (L.get x.vault).lamports.toNat)
    + amount.toNat

theorem Call.Proposes.accepted_iff (h : c.Proposes S x amount bump vaultBump)
    (hS : Apart S) (hL : Sound S L) (hclear : L.Clear S)
    (htotal : L.total < UInt64.size)
    (hhouse : (L.get x.house).owner = Key.system ∧ (L.get x.house).data = []) :
    (∃ r, (L.run c).result = .ok r) ↔
    (∀ P p, L.pool? P = some p → p.house ≠ x.house)
      ∧ 0 < amount.toNat
      ∧ L.outlay x amount ≤ (L.get x.house).lamports.toNat := by
  have hrent := Ledger.toNat_rentMinimum_pool
  have hfloor := Call.toNat_rentFloor
  simp only [Ledger.outlay]
  constructor
  · intro hrun
    obtain ⟨⟨M, event⟩, hrun⟩ := hrun
    obtain ⟨p, hstep, hsameHouse, hsameVault, hcreated, _⟩ :=
      h.founds hS hL hrun
    obtain ⟨purse, rent, funds, hrentEq, hfunds, hmoved, _⟩ := hstep.moved
    have hpos := Word.pos_iff.1 (Pool.create_eq_ok_iff.1 hcreated).1
    rw [hsameVault] at hfunds hmoved
    rw [hsameHouse] at hmoved
    refine ⟨fun P p' hp' => ?_, hpos, by omega⟩
    rw [← hsameHouse]
    exact hstep.house_ne hL hp'
  · intro hgoes
    obtain ⟨hnone, hpos, henough⟩ := hgoes
    -- The house has the funds besides what the vault holds, so the two go into
    -- one word.
    have hkeys : [x.house, x.vault].Nodup := by simp [h.house_ne_vault]
    have hle := L.lamports_le_total hkeys
    simp only [List.map_cons, List.map_nil, List.sum_cons, List.sum_nil] at hle
    have hpoolFree := hclear.pool_free hS hL h.pool fun p hp => by
      have hof := (hL.pool x.pool p hp).stands.pool
      exact hnone x.pool p hp (hS.pool_inj hof h.pool)
    have hvaultFree := hclear.vault_free hS hL h.vault
    have hfits :
        max (L.get x.vault).lamports.toNat Call.rentFloor.toNat + amount.toNat
          < UInt64.size := by omega
    have hpays :
        max (L.get x.pool).lamports.toNat
            (Ledger.rentMinimum Pool.record.size).toNat
          + max (L.get x.vault).lamports.toNat Call.rentFloor.toNat
          + amount.toNat
        ≤ (L.get x.house).lamports.toNat + (L.get x.pool).lamports.toNat
          + (L.get x.vault).lamports.toNat := by omega
    obtain ⟨M, _, hrun⟩ :=
      Ledger.founds_of_free (p := ⟨x.house, bump, x.vault, vaultBump, L.slot,
          amount, 0, 0, 0, 0, 0, Pool.initialVersion⟩)
        hS h.lawful h.decoded h.seated.program h.named h.seated.signed h.writes
        ⟨h.pool.1, h.find, h.vault.1, h.vaultFind⟩ hhouse hpoolFree hvaultFree
        (Pool.create_eq_ok_iff.2 ⟨Word.pos_iff.2 hpos, rfl⟩) hfits hpays
    exact ⟨_, hrun⟩

/-! ## What it leaves -/

/-- The ledger `M` is `L` after the house has paid for the pool `p` and for the
vault. -/
structure Ledger.Opened (L : Ledger) (x : Seats) (amount : UInt64) (p : Pool)
    (M : Ledger) : Prop where
  slot : M.slot = L.slot
  pool : ∃ rent : UInt64, M.get x.pool = ⟨rent, Key.game, Pool.record.encode p⟩
    ∧ rent.toNat = max (L.get x.pool).lamports.toNat 1809600
  vault : ∃ funds : UInt64, M.get x.vault = ⟨funds, Key.system, []⟩
    ∧ funds.toNat = max (L.get x.vault).lamports.toNat 890880 + amount.toNat
  house : ∃ purse : UInt64,
      M.get x.house = { L.get x.house with lamports := purse }.kept
    ∧ purse.toNat + L.outlay x amount = (L.get x.house).lamports.toNat
  others : ∀ k ∉ [x.house, x.pool, x.vault], M.get k = L.get k
  stored : M.pool? x.pool = some p
  spendable : amount.toNat
    ≤ (p.spendable (M.get x.vault).lamports Call.rentFloor).toNat

theorem Ledger.Founds.opened (hS : Apart S) (h : L.Founds S c x.pool p amount M)
    (hhouse : p.house = x.house) (hvault : p.vault = x.vault) :
    L.Opened x amount p M := by
  have hrentMinimum := Ledger.toNat_rentMinimum_pool
  have hfloor := Call.toNat_rentFloor
  obtain ⟨_, hlocked, _⟩ := h.counters
  obtain ⟨purse, rent, funds, hrent, hfunds, hmoved, hM⟩ := h.moved
  have hnodup := h.nodup hS
  simp only [hhouse, hvault] at hnodup hfunds hmoved hM
  obtain ⟨hgetHouse, hgetPool, hgetVault⟩ :=
    L.get_foundStep hnodup purse rent funds p
  have hrentNe : rent ≠ 0 := Word.ne_zero_of_toNat_pos (by omega)
  have hfundsNe : funds ≠ 0 := Word.ne_zero_of_toNat_pos (by omega)
  rw [← hM] at hgetHouse hgetPool hgetVault
  rw [Account.kept_of_lamports_ne hrentNe] at hgetPool
  rw [Account.kept_of_lamports_ne hfundsNe] at hgetVault
  refine ⟨?_, ⟨rent, hgetPool, by omega⟩, ⟨funds, hgetVault, by omega⟩,
    ⟨purse, hgetHouse, ?_⟩, fun k hk => ?_, h.pool?_pool hS, ?_⟩
  · rw [hM]
    exact slot_setAll _ _
  · rw [outlay]
    omega
  · rw [hM]
    exact get_setAll_of_not_mem L hk
  · -- Nothing is locked yet, so all that the vault holds above its floor can be
    -- spent.
    have hbacked : Call.rentFloor.toNat + p.lockedStakes.toNat
        ≤ funds.toNat := by
      rw [hlocked, UInt64.toNat_zero]
      omega
    obtain ⟨havailable, hspendable⟩ := Pool.toNat_spendable hbacked
    rw [hlocked, UInt64.toNat_zero] at hspendable
    rw [hgetVault]
    show amount.toNat ≤ (p.spendable funds Call.rentFloor).toNat
    omega

/-- In every ledger reached from one whose addresses were free, a house opens
its pool with the right accounts exactly if it has none yet, brings some funds,
and can pay for them and for what the two accounts lack of their rent. What is
left is the new pool, the funded vault and a house that has paid for both; and
if it fails, nothing is left of it. -/
theorem Ledger.FromPristine.pool_opened (hS : Apart S) (hL : L.FromPristine S)
    (htotal : L.total < UInt64.size) (h : c.Proposes S x amount bump vaultBump)
    (hhouse : (L.get x.house).owner = Key.system ∧ (L.get x.house).data = []) :
    ((∃ r, (L.run c).result = .ok r) ↔
      (∀ P p, L.pool? P = some p → p.house ≠ x.house)
        ∧ 0 < amount.toNat ∧ L.outlay x amount ≤ (L.get x.house).lamports.toNat)
      ∧ (∀ f, (L.run c).result = .error f → L.after c = L)
      ∧ ∀ M event, (L.run c).result = .ok (M, event) →
        event = .poolInitialized x.pool x.house x.vault amount
          ∧ ∃ p,
            Pool.create x.house bump x.vault vaultBump L.slot amount = .ok p
            ∧ L.Opened x amount p M := by
  have hsound := hL.reachable.sound hS
  refine ⟨h.accepted_iff hS hsound (hL.clear hS) htotal hhouse, fun f hf => ?_,
    fun M event hrun => ?_⟩
  · rw [after, hf]
  · obtain ⟨p, hstep, hsameHouse, hsameVault, hcreated, hevent⟩ :=
      h.founds hS hsound hrun
    exact ⟨hevent, p, hcreated, hstep.opened hS hsameHouse hsameVault⟩

/-- The pool of the first run is opened, and neither of its accounts had
anything before. -/
theorem pool_opened_first_run : ∃ M event,
    (Sample.start.run Sample.opening).result = .ok (M, event)
      ∧ M.pool? Sample.pool
        = some ⟨Sample.house, 255, Sample.vault, 255, 5, 100000000, 0, 0, 0, 0,
          0, 1⟩
      ∧ (M.get Sample.vault).lamports.toNat = 890880 + 100000000 := by
  have htotal : Sample.start.total < UInt64.size := by decide +kernel
  have hproposes : Sample.opening.Proposes (Known Sample.addresses)
      Sample.seats 100000000 255 255 :=
    ⟨Sample.opening_lawful, Request.decode_encode _,
      Call.seated_of_accounts [] rfl rfl, by decide +kernel, by decide +kernel⟩
  obtain ⟨haccepted, _, hleaves⟩ :=
    Sample.start_pristine.fromPristine.pool_opened Sample.apart
      htotal hproposes (by decide +kernel)
  have hnone : ∀ P p, Sample.start.pool? P = some p →
      p.house ≠ Sample.seats.house := fun P p hp =>
    absurd (Account.owner_of_stored? hp) (Sample.start_untouched P)
  obtain ⟨⟨M, event⟩, hrun⟩ :=
    haccepted.2 ⟨hnone, by decide +kernel, by decide +kernel⟩
  obtain ⟨_, p, hcreated, hopened⟩ := hleaves M event hrun
  obtain ⟨funds, hvault, hfunds⟩ := hopened.vault
  have hempty : (Sample.start.get Sample.seats.vault).lamports.toNat = 0 := by
    decide +kernel
  have hslot : Sample.start.slot = 5 := by decide +kernel
  obtain ⟨_, hp⟩ := Pool.create_eq_ok_iff.1 hcreated
  have hstored := hopened.stored
  rw [hp, hslot] at hstored
  refine ⟨M, event, hrun, hstored, ?_⟩
  rw [show Sample.vault = Sample.seats.vault from rfl, hvault]
  show funds.toNat = 890880 + 100000000
  rw [hfunds, hempty]
  rfl

end HouseDice
