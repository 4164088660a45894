import HouseDice.Proofs.Call.Accounts
import HouseDice.Proofs.Call.Opening
import HouseDice.Proofs.Sound

/-!
# What opening a pool does

A house that opens its pool writes three accounts: its own, the pool's and the
vault's. The other two stand at addresses that nobody else has a use for, and
the call would have failed if the pool's address had been taken, so no bet in
the ledger can name the new pool and its counters start at zero rightly.
-/

namespace HouseDice

open Address Ledger

variable {S : Set Purpose} {L M : Ledger} {c : Call} {house pool vault : Key}
  {bump vaultBump : UInt8} {amount : UInt64}

/-! ## The step -/

/-- The ledger with a new pool, a vault, and what the house has left. -/
def Ledger.foundStep (L : Ledger) (house pool vault : Key)
    (purse rent funds : UInt64) (p : Pool) : Ledger :=
  L.setAll [(house, { L.get house with lamports := purse }),
    (pool, ⟨rent, Key.game, Pool.record.encode p⟩),
    (vault, ⟨funds, Key.system, []⟩)]

theorem Ledger.get_foundStep (L : Ledger) (hnodup : [house, pool, vault].Nodup)
    (purse rent funds : UInt64) (p : Pool) :
    (L.foundStep house pool vault purse rent funds p).get house
        = { L.get house with lamports := purse }.kept
      ∧ (L.foundStep house pool vault purse rent funds p).get pool
        = Account.kept ⟨rent, Key.game, Pool.record.encode p⟩
      ∧ (L.foundStep house pool vault purse rent funds p).get vault
        = Account.kept ⟨funds, Key.system, []⟩ :=
  ⟨get_setAll_of_mem L hnodup (by simp), get_setAll_of_mem L hnodup (by simp),
    get_setAll_of_mem L hnodup (by simp)⟩

/-- The ledger `M` is `L` after a house has opened the pool `p`. -/
structure Ledger.Founds (S : Set Purpose) (L : Ledger) (c : Call) (pool : Key)
    (p : Pool) (amount : UInt64) (M : Ledger) : Prop where
  program : c.program = Key.game
  named : c.key? 0 = some pool ∧ c.key? 1 = some p.vault
    ∧ c.key? 2 = some p.house
    ∧ c.key? 3 = some Key.system
  signed : c.rights.signs p.house
  writes : c.rights.writes pool ∧ c.rights.writes p.vault
    ∧ c.rights.writes p.house
  payer : (L.get p.house).owner = Key.system ∧ (L.get p.house).data = []
  outside : ¬ Derived S p.house
  stands : p.Stands S pool
  poolFree : (L.get pool).owner = Key.system ∧ (L.get pool).data = []
  vaultFree : (L.get p.vault).owner = Key.system ∧ (L.get p.vault).data = []
  created : Pool.create p.house p.bump p.vault p.vaultBump L.slot amount = .ok p
  moved : ∃ purse rent funds : UInt64,
    rent.toNat = max (L.get pool).lamports.toNat
          (Ledger.rentMinimum Pool.record.size).toNat
      ∧ funds.toNat = max (L.get p.vault).lamports.toNat Call.rentFloor.toNat
        + amount.toNat
      ∧ (L.get p.house).lamports.toNat + (L.get pool).lamports.toNat
          + (L.get p.vault).lamports.toNat
        = purse.toNat + rent.toNat + funds.toNat
      ∧ M = L.foundStep p.house pool p.vault purse rent funds p

namespace Ledger.Founds

variable {p : Pool}

theorem nodup (hS : Apart S) (h : L.Founds S c pool p amount M) :
    [p.house, pool, p.vault].Nodup := by
  have hpool := h.stands.pool.ne_of_not_derived h.outside
  have hvault := h.stands.vault.ne_of_not_derived h.outside
  have hne := hS.ne h.stands.pool h.stands.vault (by simp)
  simp [hpool, hvault, hne]

theorem counters (h : L.Founds S c pool p amount M) :
    p.openBets = 0 ∧ p.lockedStakes = 0 ∧ p.totalWagered = 0
      ∧ p.totalRefunded = 0 := by
  obtain ⟨_, hp⟩ := Pool.create_eq_ok_iff.1 h.created
  rw [hp]
  exact ⟨rfl, rfl, rfl, rfl⟩

theorem gets (hS : Apart S) (h : L.Founds S c pool p amount M) :
    M.slot = L.slot
      ∧ (∃ purse, M.get p.house = { L.get p.house with lamports := purse }.kept)
      ∧ (∃ rent, M.get pool = ⟨rent, Key.game, Pool.record.encode p⟩)
      ∧ (∃ funds : UInt64, M.get p.vault = ⟨funds, Key.system, []⟩
        ∧ max (L.get p.vault).lamports.toNat Call.rentFloor.toNat ≤ funds.toNat)
      ∧ ∀ k ∉ [p.house, pool, p.vault], M.get k = L.get k := by
  obtain ⟨purse, rent, funds, hrent, hfunds, _, rfl⟩ := h.moved
  obtain ⟨hhouse, hpool, hvault⟩ :=
    L.get_foundStep (h.nodup hS) purse rent funds p
  have hpos : 0 < (Ledger.rentMinimum Pool.record.size).toNat := by decide
  have hfloor : 0 < Call.rentFloor.toNat := by decide
  have hrentNe : rent ≠ 0 := Word.ne_zero_of_toNat_pos (by omega)
  have hfundsNe : funds ≠ 0 := Word.ne_zero_of_toNat_pos (by omega)
  exact ⟨slot_setAll _ _, ⟨purse, hhouse⟩,
    ⟨rent, hpool.trans (Account.kept_of_lamports_ne hrentNe)⟩,
    ⟨funds, hvault.trans (Account.kept_of_lamports_ne hfundsNe), by omega⟩,
    fun k hk => get_setAll_of_not_mem L hk⟩

/-- Only the new pool is new among the records of the program. -/
theorem stored? (hS : Apart S) (hL : Sound S L)
    (h : L.Founds S c pool p amount M) {α : Type} (r : Record α) {k : Key}
    (hk : k ≠ pool) : (M.get k).stored? r = (L.get k).stored? r := by
  obtain ⟨_, ⟨purse, hhouse⟩, _, ⟨funds, hvault, _⟩, hother⟩ := h.gets hS
  by_cases hkh : k = p.house
  · have hout : (L.get p.house).owner ≠ Key.game :=
      fun howner => h.outside (hL.derived_of_owner howner)
    rw [hkh, hhouse, Account.stored?_of_owner_ne hout,
      Account.stored?_of_owner_ne (Account.owner_kept_lamports hout purse)]
  by_cases hkv : k = p.vault
  · have hout : (L.get p.vault).owner ≠ Key.game := by
      rw [h.vaultFree.1]
      exact Key.system_ne_game
    rw [hkv, hvault, Account.stored?_of_owner_ne hout,
      Account.stored?_of_owner_ne Key.system_ne_game]
  · rw [hother k (by simp [hkh, hk, hkv])]

theorem pool_free (h : L.Founds S c pool p amount M) {α : Type} (r : Record α) :
    (L.get pool).stored? r = none := by
  refine Account.stored?_of_owner_ne ?_
  rw [h.poolFree.1]
  exact Key.system_ne_game

theorem pool?_pool (hS : Apart S) (h : L.Founds S c pool p amount M) :
    M.pool? pool = some p := by
  obtain ⟨_, _, ⟨rent, hpool⟩, _, _⟩ := h.gets hS
  rw [Ledger.pool?, hpool]
  exact Account.stored?_of_data rfl rfl

theorem bet?_eq (hS : Apart S) (hL : Sound S L)
    (h : L.Founds S c pool p amount M) (k : Key) :
    M.bet? k = L.bet? k := by
  by_cases hk : k = pool
  · rw [hk]
    exact (Account.bet?_of_pool? (h.pool?_pool hS)).trans
      (h.pool_free Bet.record).symm
  · exact h.stored? hS hL Bet.record hk

theorem tally_eq (hS : Apart S) (hL : Sound S L)
    (h : L.Founds S c pool p amount M) (P : Key) (measure : Bet → Nat) :
    M.tally P measure = L.tally P measure := by
  rw [tally_eq_sum, tally_eq_sum]
  exact sum_congr (tallyIn_of_none rfl) fun k =>
    tallyIn_congr (h.bet?_eq hS hL k) P measure

/-- Nobody has a bet against a pool that is not there. -/
theorem tally_pool (hL : Sound S L) (h : L.Founds S c pool p amount M)
    (measure : Bet → Nat) :
    L.tally pool measure = 0 := by
  rw [tally_eq_sum]
  refine sum_eq_zero (fun k => ?_) (tallyIn_of_none rfl)
  cases hb : (L.get k).bet? with
  | none => exact tallyIn_of_none hb
  | some b =>
    rw [tallyIn_of_bet? hb, if_neg]
    intro hpool
    obtain ⟨p', hp', _⟩ := (hL.bet k b hb).pool
    rw [hpool, Ledger.pool?, Account.pool?, h.pool_free Pool.record] at hp'
    cases hp'

/-- A house that opens a pool had none. -/
theorem house_ne (hL : Sound S L) (h : L.Founds S c pool p amount M) {P : Key}
    {p' : Pool} (hp' : L.pool? P = some p') : p'.house ≠ p.house := by
  intro hhouse
  have hof := (hL.pool P p' hp').stands.pool
  rw [hhouse] at hof
  rw [hof.unique h.stands.pool, Ledger.pool?, Account.pool?,
    h.pool_free Pool.record] at hp'
  cases hp'

/-- The vault of another pool is none of the three accounts. -/
theorem vault_not_mem (hS : Apart S) (hL : Sound S L)
    (h : L.Founds S c pool p amount M) {P : Key} {p' : Pool}
    (hp' : L.pool? P = some p') : p'.vault ∉ [p.house, pool, p.vault] := by
  have hstands := (hL.pool P p' hp').stands
  simp only [List.mem_cons, List.not_mem_nil, or_false, not_or]
  refine ⟨(hstands.vault.ne_of_not_derived h.outside).symm,
    hS.ne hstands.vault h.stands.pool (by simp), fun hvault => ?_⟩
  have hof := hstands.vault
  rw [hvault] at hof
  exact h.house_ne hL hp' (hS.vault_inj hof h.stands.vault)

theorem sound (hS : Apart S) (hL : Sound S L)
    (h : L.Founds S c pool p amount M) : Sound S M := by
  obtain ⟨hslot, ⟨purse, hhouse⟩, ⟨rent, hpool⟩, ⟨funds, hvault, hfunds⟩,
    hother⟩ := h.gets hS
  obtain ⟨hopen, hlocked, hwagered, hrefunded⟩ := h.counters
  refine ⟨fun k hk => ?_, fun P p' hp' => ?_, fun B b hb => ?_⟩
  · by_cases hkp : k = pool
    · exact .inl ⟨p, by rw [hkp, hpool]⟩
    by_cases hkh : k = p.house
    · rw [hkh, hhouse] at hk
      exact absurd hk (Account.owner_kept_lamports
        (fun howner => h.outside (hL.derived_of_owner howner)) purse)
    by_cases hkv : k = p.vault
    · rw [hkv, hvault] at hk
      exact absurd hk Key.system_ne_game
    · rw [hother k (by simp [hkp, hkh, hkv])] at hk ⊢
      exact hL.stored k hk
  · by_cases hP : P = pool
    · rw [hP, h.pool?_pool hS, Option.some.injEq] at hp'
      rw [hP, ← hp']
      exact {
        stands := h.stands
        vaultOwner := by rw [hvault]
        vaultData := by rw [hvault]
        openBets := by
          rw [h.tally_eq hS hL, h.tally_pool hL, hopen, UInt64.toNat_zero]
        lockedStakes := by
          rw [h.tally_eq hS hL, h.tally_pool hL, hlocked, UInt64.toNat_zero]
        refunded := by
          rw [hrefunded, hlocked, hwagered]
          exact Nat.le_refl 0
        backed := by
          rw [hvault, hlocked, UInt64.toNat_zero]
          show Call.rentFloor.toNat + 0 ≤ funds.toNat
          omega }
    · have hold : L.pool? P = some p' :=
        (h.stored? hS hL Pool.record hP).symm.trans hp'
      have hgood := hL.pool P p' hold
      have hget := hother _ (h.vault_not_mem hS hL hold)
      refine hgood.carry ?_ ?_ ?_ (h.tally_eq hS hL P)
      · rw [hget]
        exact UInt64.le_refl _
      · rw [hget]
      · rw [hget]
  · rw [h.bet?_eq hS hL] at hb
    obtain ⟨⟨p', hp', hstands⟩, hb⟩ := hL.bet B b hb
    refine ⟨⟨p', ?_, hstands⟩, by rw [hslot]; exact hb⟩
    by_cases hP : b.pool = pool
    · rw [hP, Ledger.pool?, Account.pool?, h.pool_free Pool.record] at hp'
      cases hp'
    · exact (h.stored? hS hL Pool.record hP).trans hp'

/-- The new pool is the one that the call names. -/
theorem of_named (h : L.Founds S c pool p amount M) {P V H : Key}
    (hpool : c.key? 0 = some P) (hvault : c.key? 1 = some V)
    (hhouse : c.key? 2 = some H) (hfind : find? (.pool H) = some (P, bump))
    (hvaultFind : find? (.vault H) = some (V, vaultBump)) :
    pool = P ∧ p.house = H ∧ p.vault = V
      ∧ Pool.create H bump V vaultBump L.slot amount = .ok p := by
  obtain ⟨hP, hV, hH, _⟩ := h.named
  have hsamePool : pool = P := Option.some.inj (hP.symm.trans hpool)
  have hsameVault : p.vault = V := Option.some.inj (hV.symm.trans hvault)
  have hsameHouse : p.house = H := Option.some.inj (hH.symm.trans hhouse)
  have hfound := h.stands.find
  have hvaultFound := h.stands.vaultFind
  have hcreated := h.created
  rw [hsameHouse, hfind, Option.some.injEq, Prod.mk.injEq] at hfound
  rw [hsameHouse, hvaultFind, Option.some.injEq, Prod.mk.injEq] at hvaultFound
  rw [hsameHouse, hsameVault, ← hfound.2, ← hvaultFound.2] at hcreated
  exact ⟨hsamePool, hsameHouse, hsameVault, hcreated⟩

end Ledger.Founds

/-! ## From the call to the step -/

/-- The accounts that a call opens for a house are for purposes of `S`. -/
theorem Call.Lawful.house_mem (hc : c.Lawful S)
    (hdecode : Request.decode c.data = .ok (.initializePool amount))
    (hhouse : c.key? 2 = some house) :
    Purpose.pool house ∈ S ∧ Purpose.vault house ∈ S := by
  obtain ⟨a, ha, rfl⟩ := Option.map_eq_some_iff.1 hhouse
  have hopens : c.opens = [.pool a.key, .vault a.key] := by
    simp only [Call.opens, hdecode, ha, Option.map_some, Option.getD_some]
  exact ⟨hc.opens _ (by simp [hopens]), hc.opens _ (by simp [hopens])⟩

/-- What a call sees once both accounts are open and the vault is funded. -/
def Ledger.foundedView (L : Ledger) (house pool vault : Key)
    (left₁ left₂ purse rent funded funds : UInt64) (p : Pool) : View :=
  let opened :=
    (View.put L.get house { L.get house with lamports := left₁ }).put pool
      ⟨rent, Key.game, List.replicate Pool.record.size 0⟩
  let both :=
    (opened.put house { L.get house with lamports := left₂ }).put vault
      ⟨funded, Key.system, []⟩
  let paid := (both.put house { L.get house with lamports := purse }).put vault
    ⟨funds, Key.system, []⟩
  paid.save Pool.record pool p

theorem Ledger.commit_foundedView {house pool vault : Key}
    (hnodup : [house, pool, vault].Nodup) {keys : List Key}
    (hkeys : ∀ k ∈ [house, pool, vault], k ∈ keys)
    (left₁ left₂ purse rent funded funds : UInt64) (p : Pool) :
    L.commit keys
        (L.foundedView house pool vault left₁ left₂ purse rent funded funds p)
      = L.foundStep house pool vault purse rent funds p := by
  have hne : house ≠ pool ∧ house ≠ vault ∧ pool ≠ vault := by
    simpa [and_assoc] using hnodup
  obtain ⟨hhp, hhv, hpv⟩ := hne
  have hspace : (List.replicate Pool.record.size (0 : UInt8)).length
      = Pool.record.size :=
    List.length_replicate
  unfold foundedView View.save
  refine commit_eq_setAll hnodup hkeys ?_ ?_
  · intro k a hk
    simp only [List.mem_cons, List.not_mem_nil, or_false, Prod.mk.injEq] at hk
    rcases hk with ⟨rfl, rfl⟩ | ⟨rfl, rfl⟩ | ⟨rfl, rfl⟩
    · rw [View.put_of_ne _ hhp, View.put_of_ne _ hhv, View.put_self]
    · rw [View.put_self, View.put_of_ne _ hpv, View.put_of_ne _ hhp.symm,
        View.put_of_ne _ hpv, View.put_of_ne _ hhp.symm, View.put_self,
        Record.overwrite_of_length_eq _ hspace]
    · rw [View.put_of_ne _ hpv.symm, View.put_self]
  · intro k hk
    simp only [List.map_cons, List.map_nil, List.mem_cons, List.not_mem_nil,
      or_false, not_or] at hk
    obtain ⟨hh, hp, hv⟩ := hk
    rw [View.put_of_ne _ hp, View.put_of_ne _ hv, View.put_of_ne _ hh,
      View.put_of_ne _ hv, View.put_of_ne _ hh, View.put_of_ne _ hp,
      View.put_of_ne _ hh]

/-- The pool is opened, then the vault, then the vault is funded; the house pays
each time. -/
theorem Ledger.foundedView_of_ok (hnodup : [house, pool, vault].Nodup)
    {u v w : View}
    (hpool : c.Opens L.get house pool Pool.record.size Key.game w)
    (hvault : c.Opens w house vault 0 Key.system u)
    (hpay : SystemProgram.transfer c.rights u house vault amount = .ok v)
    (p : Pool) :
    ((L.get vault).owner = Key.system ∧ (L.get vault).data = [])
      ∧ (L.get house).data = []
      ∧ ((L.get house).owner = Key.system ∨ amount = 0)
      ∧ ∃ left₁ left₂ purse rent funded funds : UInt64,
        rent.toNat = max (L.get pool).lamports.toNat
          (Ledger.rentMinimum Pool.record.size).toNat
          ∧ funds.toNat = max (L.get vault).lamports.toNat Call.rentFloor.toNat
            + amount.toNat
          ∧ (L.get house).lamports.toNat + (L.get pool).lamports.toNat
              + (L.get vault).lamports.toNat
            = purse.toNat + rent.toNat + funds.toNat
          ∧ v.save Pool.record pool p = L.foundedView house pool vault
            left₁ left₂ purse rent funded funds p := by
  have hne : house ≠ pool ∧ house ≠ vault ∧ pool ≠ vault := by
    simpa [and_assoc] using hnodup
  obtain ⟨hhp, hhv, hpv⟩ := hne
  obtain ⟨left₁, rent, hrent, hleft₁, hw⟩ := hpool.view
  have hwHouse : w house = { L.get house with lamports := left₁ } := by
    rw [hw, View.put_of_ne _ hhp, View.put_self]
  have hwVault : w vault = L.get vault := by
    rw [hw, View.put_of_ne _ hpv.symm, View.put_of_ne _ hhv.symm]
  obtain ⟨left₂, funded, hfunded, hleft₂, hu⟩ := hvault.view
  have huHouse : u house = { L.get house with lamports := left₂ } := by
    rw [hu, View.put_of_ne _ hhv, View.put_self, hwHouse]
  have huVault : u vault = ⟨funded, Key.system, []⟩ := by
    rw [hu, View.put_self]
    rfl
  obtain ⟨_, _, _, hpdata, hpowner, purse, funds, hpurse, hfunds, hv⟩ :=
    (SystemProgram.transfer_eq_ok_iff hhv).1 hpay
  have howner := hvault.system
  have hdata := hvault.data
  rw [hwVault] at hfunded howner hdata
  rw [hwHouse, hwVault] at hleft₂
  rw [huHouse] at hpdata hpowner hpurse hv
  rw [huVault] at hfunds hv
  rw [hwHouse] at hu
  have hfunds : funds.toNat = funded.toNat + amount.toNat := hfunds
  have hpurse : left₂.toNat = purse.toNat + amount.toNat := hpurse
  have hleft₂ : left₁.toNat + (L.get vault).lamports.toNat
    = left₂.toNat + funded.toNat := hleft₂
  refine ⟨⟨howner, hdata⟩, hpdata, hpowner, left₁, left₂, purse, rent, funded,
    funds, hrent, ?_, by omega, ?_⟩
  · rw [hfunds, hfunded]
    rfl
  · rw [hv, hu, hw]
    rfl

theorem Call.founds_of_ok (hS : Apart S) (hc : c.Lawful S)
    (hprogram : c.program = Key.game) {e : Effects}
    (hdecode : Request.decode c.data = .ok (.initializePool amount))
    (h : c.initializePool L.slot L.get amount = .ok e) : ∃ pool p,
      L.Founds S c pool p amount (L.commit (c.accounts.map (·.key)) e.view)
        ∧ e.event = .poolInitialized pool p.house p.vault amount := by
  simp only [initializePool, bind_eq_ok_iff, takeSigner_eq_ok_iff,
    takeNew_eq_ok_iff, takeSystemProgram_eq_ok_iff, mayWrite_eq_ok_iff, ruled,
    granted, mapError_eq_ok_iff, exists_const, derived_eq_ok_iff, pure,
    Except.pure, Except.ok.injEq] at h
  obtain ⟨pool, hpool, vault, hvault, house, ⟨hhouse, hsigned⟩, hsystem, bump,
    hfind, w, hopen, hwpool, _, _, vaultBump, hvaultFind, u, hvaultOpen,
    hwvault, _, _, hwhouse, p, hp, v, hpay, rfl⟩ := h
  obtain ⟨_, houtside⟩ := hc.signer house hsigned
  obtain ⟨hpoolMem, hvaultMem⟩ := hc.house_mem hdecode hhouse
  have hpoolOf : Of S (.pool house) pool := ⟨hpoolMem, bump, hfind⟩
  have hvaultOf : Of S (.vault house) vault :=
    ⟨hvaultMem, vaultBump, hvaultFind⟩
  have hhp := hpoolOf.ne_of_not_derived houtside
  have hhv := hvaultOf.ne_of_not_derived houtside
  have hpv : pool ≠ vault := hS.ne hpoolOf hvaultOf (by simp)
  have hnodup : [house, pool, vault].Nodup := by simp [hhp, hhv, hpv]
  have hfirst := (openAccount_eq_ok_iff hhp (by decide)).1 hopen
  have hsecond := (openAccount_eq_ok_iff hhv (by decide)).1 hvaultOpen
  obtain ⟨hfree, hpdata, hpowner, left₁, left₂, purse, rent, funded, funds,
    hrent, hfunds, hpurse, hview⟩ :=
    Ledger.foundedView_of_ok hnodup hfirst hsecond hpay p
  have hkeys : ∀ k ∈ [house, pool, vault], k ∈ c.accounts.map (·.key) := by
    intro k hk
    simp only [List.mem_cons, List.not_mem_nil, or_false] at hk
    rcases hk with rfl | rfl | rfl
    · exact mem_of_key? hhouse
    · exact mem_of_key? hpool
    · exact mem_of_key? hvault
  have hlaid : p.house = house ∧ p.bump = bump ∧ p.vault = vault
      ∧ p.vaultBump = vaultBump := by
    rw [(Pool.create_eq_ok_iff.1 hp).2]
    exact ⟨rfl, rfl, rfl, rfl⟩
  obtain ⟨rfl, rfl, rfl, rfl⟩ := hlaid
  have hfunded : amount ≠ 0 :=
    (UInt64.ne_of_lt (Pool.create_eq_ok_iff.1 hp).1).symm
  refine ⟨pool, p, ⟨hprogram, ⟨hpool, hvault, hhouse, hsystem⟩, hsigned,
    ⟨hwpool, hwvault, hwhouse⟩, ⟨hpowner.resolve_right hfunded, hpdata⟩,
    houtside, ⟨hpoolOf.1, hfind, hvaultOf.1, hvaultFind⟩,
    ⟨hfirst.system, hfirst.data⟩, hfree, hp, purse, rent, funds, hrent, hfunds,
    hpurse, ?_⟩, rfl⟩
  show L.commit _ (v.save Pool.record pool p) = _
  rw [hview]
  exact commit_foundedView hnodup hkeys left₁ left₂ purse rent funded funds p

/-! ## The way back -/

/-- A pool is opened where nothing stands, if the house can pay for it. -/
theorem Call.initializePool_of_ok (hne : [house, pool, vault].Nodup)
    (hnamed : c.key? 0 = some pool ∧ c.key? 1 = some vault
      ∧ c.key? 2 = some house
      ∧ c.key? 3 = some Key.system)
    (hsigned : c.rights.signs house)
    (hwrites : c.rights.writes pool ∧ c.rights.writes vault
      ∧ c.rights.writes house)
    (hfind : find? (.pool house) = some (pool, bump))
    (hvaultFind : find? (.vault house) = some (vault, vaultBump))
    (hpayer : (L.get house).owner = Key.system ∧ (L.get house).data = [])
    (hpoolFree : (L.get pool).owner = Key.system ∧ (L.get pool).data = [])
    (hvaultFree : (L.get vault).owner = Key.system ∧ (L.get vault).data = [])
    (hpositive : 0 < amount)
    (hfits :
      max (L.get vault).lamports.toNat Call.rentFloor.toNat + amount.toNat
        < UInt64.size)
    (henough :
      max (L.get pool).lamports.toNat
          (Ledger.rentMinimum Pool.record.size).toNat
        + max (L.get vault).lamports.toNat Call.rentFloor.toNat + amount.toNat
      ≤ (L.get house).lamports.toNat + (L.get pool).lamports.toNat
        + (L.get vault).lamports.toNat) :
    ∃ e, c.initializePool L.slot L.get amount = .ok e := by
  have hdistinct : house ≠ pool ∧ house ≠ vault ∧ pool ≠ vault := by
    simpa [and_assoc] using hne
  obtain ⟨hhp, hhv, hpv⟩ := hdistinct
  obtain ⟨hkpool, hkvault, hkhouse, hsystem⟩ := hnamed
  obtain ⟨hwpool, hwvault, hwhouse⟩ := hwrites
  have hfloor : (Ledger.rentMinimum 0).toNat = Call.rentFloor.toNat := rfl
  -- The house pays for the pool, then for the vault, then for the first funds.
  obtain ⟨w, left₁, rent, hfirst, hrent, hleft₁, hwhouseGet, _, hwother⟩ :=
    exists_opens Pool.record.size Key.game hhp hsigned hwhouse hwpool
      hpayer hpoolFree (by omega)
  have hwvaultGet : w vault = L.get vault := hwother _ hhv.symm hpv.symm
  have hpayer₁ : (w house).owner = Key.system ∧ (w house).data = [] := by
    rw [hwhouseGet]
    exact hpayer
  have hleft₁Eq : (w house).lamports.toNat = left₁.toNat := by rw [hwhouseGet]
  rw [← hwvaultGet] at hfits henough hvaultFree
  obtain ⟨u, left₂, funded, hsecond, hfunded, hleft₂, huhouse, huvault, _⟩ :=
    exists_opens 0 Key.system hhv hsigned hwhouse hwvault hpayer₁ hvaultFree
      (by omega)
  have hpayer₂ : (u house).owner = Key.system ∧ (u house).data = [] := by
    rw [huhouse]
    exact hpayer₁
  have hleft₂Eq : (u house).lamports.toNat = left₂.toNat := by rw [huhouse]
  have hfundedEq : (u vault).lamports.toNat = funded.toNat := by rw [huvault]
  obtain ⟨v, hpaid⟩ :=
    SystemProgram.transfer_of_enough amount hhv hsigned hwhouse hwvault hpayer₂
      (by omega) (by omega)
  have hpay :
      granted (SystemProgram.transfer c.rights u house vault amount) = .ok v :=
    mapError_eq_ok_iff.2 hpaid
  have hcreate :
      ruled (Pool.create house bump vault vaultBump L.slot amount) = .ok _ :=
    mapError_eq_ok_iff.2 (Pool.create_eq_ok_iff.2 ⟨hpositive, rfl⟩)
  have hprogram : c.takeSystemProgram 3 = .ok () :=
    takeSystemProgram_eq_ok_iff.2 hsystem
  have hwp : c.mayWrite pool .pool = .ok () := mayWrite_eq_ok_iff.2 hwpool
  have hwv : c.mayWrite vault .vault = .ok () := mayWrite_eq_ok_iff.2 hwvault
  have hwh : c.mayWrite house .house = .ok () := mayWrite_eq_ok_iff.2 hwhouse
  simp only [initializePool, takeNew_eq_ok_iff.2 hkpool,
    takeNew_eq_ok_iff.2 hkvault, takeSigner_eq_ok_iff.2 ⟨hkhouse, hsigned⟩,
    hprogram, derived_eq_ok_iff.2 hfind,
    (openAccount_eq_ok_iff hhp (by decide)).2 hfirst, hwp, hfirst.holdsRent,
    derived_eq_ok_iff.2 hvaultFind,
    (openAccount_eq_ok_iff hhv (by decide)).2 hsecond, hwv, hsecond.holdsRent,
    hwh, hcreate, hpay, ok_bind]
  exact ⟨_, rfl⟩

/-- A pool that the house can pay for is opened as asked, where nothing
stands. -/
theorem Ledger.founds_of_free (hS : Apart S) (hlawful : c.Lawful S) {p : Pool}
    (hdecode : Request.decode c.data = .ok (.initializePool amount))
    (hprogram : c.program = Key.game)
    (hnamed : c.key? 0 = some pool ∧ c.key? 1 = some p.vault
      ∧ c.key? 2 = some p.house
      ∧ c.key? 3 = some Key.system)
    (hsigned : c.rights.signs p.house)
    (hwrites : c.rights.writes pool ∧ c.rights.writes p.vault
      ∧ c.rights.writes p.house)
    (hstands : p.Stands S pool)
    (hpayer : (L.get p.house).owner = Key.system ∧ (L.get p.house).data = [])
    (hpoolFree : (L.get pool).owner = Key.system ∧ (L.get pool).data = [])
    (hvaultFree : (L.get p.vault).owner = Key.system
      ∧ (L.get p.vault).data = [])
    (hcreated :
      Pool.create p.house p.bump p.vault p.vaultBump L.slot amount = .ok p)
    (hfits :
      max (L.get p.vault).lamports.toNat Call.rentFloor.toNat + amount.toNat
        < UInt64.size)
    (henough :
      max (L.get pool).lamports.toNat
          (Ledger.rentMinimum Pool.record.size).toNat
        + max (L.get p.vault).lamports.toNat Call.rentFloor.toNat + amount.toNat
      ≤ (L.get p.house).lamports.toNat + (L.get pool).lamports.toNat
        + (L.get p.vault).lamports.toNat) :
    ∃ M, L.Founds S c pool p amount M
      ∧ (L.run c).result
        = .ok (M, .poolInitialized pool p.house p.vault amount) := by
  have houtside : ¬ Derived S p.house := (hlawful.signer _ hsigned).2
  have hhp := hstands.pool.ne_of_not_derived houtside
  have hhv := hstands.vault.ne_of_not_derived houtside
  have hpv := hS.ne hstands.pool hstands.vault (by simp)
  obtain ⟨e, he⟩ :=
    Call.initializePool_of_ok (L := L) (by simp [hhp, hhv, hpv]) hnamed hsigned
      hwrites hstands.find hstands.vaultFind hpayer hpoolFree hvaultFree
      (Pool.create_eq_ok_iff.1 hcreated).1 hfits henough
  obtain ⟨pool', p', hstep, hevent⟩ :=
    Call.founds_of_ok hS hlawful hprogram hdecode he
  have heffects : c.effects L.slot L.get = .ok e :=
    Call.effects_eq_ok_iff.2 ⟨hprogram, _, hdecode, he⟩
  obtain ⟨hkpool, hkvault, hkhouse, _⟩ := hnamed
  obtain ⟨rfl, _, _, hcreated'⟩ :=
    hstep.of_named hkpool hkvault hkhouse hstands.find hstands.vaultFind
  cases hcreated'.symm.trans hcreated
  refine ⟨_, hstep, ?_⟩
  rw [run_of_ok heffects, hevent]

end HouseDice
