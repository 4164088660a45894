import HouseDice.Proofs.Ed25519
import HouseDice.Proofs.Reachable

/-!
# What leaves a vault

Lamports leave a vault in two ways only. The house may settle an open bet, with
an instruction right in front in which the chain was made to check the house's
own signature over the bet; then the signature decides how much leaves. Or the
player of an open bet may take the stake back once its time is over. Either way
the amount goes to the player of the bet, together with what the bet's account
held.

The accounts that the call names have no say in this. Whoever is named twice, or
for somebody else, the vault that pays is the one at the address of the house,
and the bet is one that its pool counts.
-/

namespace HouseDice

open Address

variable {S : Set Purpose} {L M : Ledger} {c : Call} {x : Seats} {b : Bet}
  {p q : Pool} {H V : Key} {paid : UInt64}

/-! ## Whose vault it was -/

/-- A step of one bet leaves every vault but its own alone. -/
theorem Ledger.Steps.vault_lamports (hS : Apart S) (hL : Sound S L)
    {bet : Account} (h : L.Steps S x p q bet) {purse vault : UInt64}
    (hV : Of S (.vault H) V) :
    ((L.betStep x purse vault q bet).get V).lamports = (L.get V).lamports
      ∨ V = x.vault ∧ p.house = H
        ∧ ((L.betStep x purse vault q bet).get V).lamports = vault := by
  obtain ⟨seed, hx⟩ := h.seats
  by_cases hvault : V = x.vault
  · have hhouse : x.house = H := by
      rw [hvault] at hV
      exact hS.vault_inj hx.vault hV
    refine .inr ⟨hvault, (h.vault_eq hS hL).1.trans hhouse, ?_⟩
    rw [hvault, h.get_vault hS, Account.lamports_kept]
  · have hplayer : V ≠ x.player := (hV.ne_of_not_derived hx.player).symm
    rw [L.get_betStep_of_ne (by simp [hplayer, hvault])
      (hS.ne hV hx.pool (by simp)) (hS.ne hV hx.bet (by simp))]
    exact .inl rfl

/-- Opening a pool takes nothing out of a vault. -/
theorem Ledger.Founds.vault_lamports (hS : Apart S) {pool : Key}
    {amount : UInt64} (h : L.Founds S c pool p amount M)
    (hV : Of S (.vault H) V) :
    (L.get V).lamports ≤ (M.get V).lamports := by
  obtain ⟨_, _, _, ⟨funds, hget, hfunds⟩, hother⟩ := h.gets hS
  by_cases hvault : V = p.vault
  · rw [hvault, hget, UInt64.le_iff_toNat_le]
    exact Nat.le_trans (Nat.le_max_left _ _) hfunds
  · have hhouse : V ≠ p.house := (hV.ne_of_not_derived h.outside).symm
    have hpool : V ≠ pool := hS.ne hV h.stands.pool (by simp)
    rw [hother V (by simp [hvault, hhouse, hpool])]
    exact UInt64.le_refl _

/-- Placing a bet takes nothing out of a vault. -/
theorem Ledger.Stakes.vault_lamports (hS : Apart S) (hL : Sound S L)
    {seed : Seed} {amount : UInt64} {roll bump : UInt8}
    (h : L.Stakes S c x seed amount roll bump p q M) (hV : Of S (.vault H) V) :
    (L.get V).lamports ≤ (M.get V).lamports := by
  obtain ⟨purse, vault, rent, hvault, hrent, _, rfl⟩ := h.moved
  have hsteps := h.steps (hrent ▸ Nat.le_max_right _ _)
  rcases hsteps.vault_lamports hS hL hV with hsame | ⟨rfl, _, hget⟩
  · rw [hsame]
    exact UInt64.le_refl _
  · rw [hget, UInt64.le_iff_toNat_le, hvault]
    exact Nat.le_add_right _ _

/-! ## Who may take it -/

/-- Why the call `c` may make the vault of the house `H` pay for the bet `b`. -/
inductive Ledger.Authorised (L : Ledger) (c : Call) (H : Key) (b : Bet) :
    UInt64 → Prop where
  | settled {paid : UInt64} (s : Signature) (i : Instruction)
      (decoded : Request.decode c.data = .ok (.resolveBet s))
      (signed : c.rights.signs H)
      (index : 1 ≤ c.index.toNat)
      (preceding : c.instruction? (c.index.toNat - 1) = some i)
      (vouches : Ed25519.Vouches i ⟨H, b.message, s⟩)
      (payout : Game.payout b.amount b.roll (Game.outcome s) = .ok paid) :
      Authorised L c H b paid
  | refunded (decoded : Request.decode c.data = .ok .refundBet)
      (signed : c.rights.signs b.player)
      (late : min (b.slot.toNat + 1000) (UInt64.size - 1) ≤ L.slot.toNat) :
      Authorised L c H b b.amount

/-- The bet under `B` is open against the pool of `H`, and the vault `V` has
paid its player. -/
structure Ledger.PaysFor (L M : Ledger) (H V B : Key) (b : Bet)
    (paid : UInt64) : Prop where
  bet : L.bet? B = some b
  pool : ∃ p, L.pool? b.pool = some p ∧ p.house = H ∧ p.vault = V
  leaves : (L.get V).lamports.toNat = (M.get V).lamports.toNat + paid.toNat
  arrives : (M.get b.player).lamports.toNat
    = (L.get b.player).lamports.toNat + paid.toNat + (L.get B).lamports.toNat

/-- A bet that is closed is paid for by the vault it was placed against. -/
theorem Ledger.Closes.paysFor (hM : L.Closes x q paid M) (hS : Apart S)
    (hL : Sound S L) (h : L.Holds x b p) (hq : Pool.Releases b.amount p q) :
    L.PaysFor M x.house x.vault x.bet b paid := by
  obtain ⟨purse, vault, hvault, hpurse, rfl⟩ := hM
  have hsteps := h.steps hL hq
  refine ⟨h.bet, ⟨p, h.betPool ▸ h.pool, h.house, h.vault⟩, ?_, ?_⟩
  · rw [hsteps.get_vault hS, Account.lamports_kept]
    exact hvault
  · rw [h.player, hsteps.get_player hS, Account.lamports_kept]
    exact hpurse

theorem Ledger.Resolves.authorised {s : Signature} {t : Game.Settlement}
    (h : L.Resolves c x b p q s t M)
    (hdecode : Request.decode c.data = .ok (.resolveBet s)) :
    L.Authorised c x.house b t.payout := by
  obtain ⟨hindex, i, hpreceding, hvouches⟩ :=
    Ed25519.vouchPreceding_eq_ok_iff.1 h.vouched
  obtain ⟨hsettle, _, _⟩ := Pool.after_settle_eq_ok_iff.1 h.counted
  exact .settled s i hdecode h.signed hindex hpreceding hvouches
    (Game.settle_eq_ok_iff.1 hsettle).2

theorem Ledger.Refunds.authorised (h : L.Refunds c x b p q M)
    (hdecode : Request.decode c.data = .ok .refundBet) :
    L.Authorised c x.house b b.amount := by
  obtain ⟨htime, _, _⟩ := Pool.after_refund_eq_ok_iff.1 h.counted
  have hsigned := h.signed
  rw [← h.holds.player] at hsigned
  exact .refunded hdecode hsigned (Game.refundable_eq_ok_iff.1 htime)

/-- A vault that holds less after a bet was closed has paid for that bet. -/
theorem Ledger.Holds.paysFor (hS : Apart S) (hL : Sound S L) (h : L.Holds x b p)
    (hq : Pool.Releases b.amount p q) (hM : L.Closes x q paid M)
    (hV : Of S (.vault H) V) (hless : (M.get V).lamports < (L.get V).lamports) :
    p.house = H ∧ L.PaysFor M H V x.bet b paid := by
  have hpays := hM.paysFor hS hL h hq
  obtain ⟨purse, vault, _, _, rfl⟩ := hM
  rcases (h.steps hL hq).vault_lamports hS hL hV with hsame | ⟨rfl, hhouse, _⟩
  · rw [hsame] at hless
    exact absurd hless (UInt64.lt_irrefl _)
  · rw [← h.house, hhouse] at hpays
    exact ⟨hhouse, hpays⟩

/-- In every reachable ledger, a call after which the vault of a house holds
less was a settlement that the house signed or a refund that the player signed,
and the player has what is missing. -/
theorem Ledger.Reachable.outflow_authorised (hS : Apart S) (hL : L.Reachable S)
    (hc : c.Lawful S) {bump : UInt8} (hmem : Purpose.vault H ∈ S)
    (hfind : find? (.vault H) = some (V, bump))
    (hless : ((L.after c).get V).lamports < (L.get V).lamports) :
    ∃ B b paid, L.PaysFor (L.after c) H V B b paid
      ∧ L.Authorised c H b paid := by
  have hsound := hL.sound hS
  have hV : Of S (.vault H) V := ⟨hmem, bump, hfind⟩
  rcases Ledger.after_eq_or_change hS hsound hc with hsame | ⟨event, hchange⟩
  · rw [hsame] at hless
    exact absurd hless (UInt64.lt_irrefl _)
  generalize hM : L.after c = M at hless hchange
  cases hchange with
  | founds _ step =>
    exact absurd hless (UInt64.not_lt.2 (step.vault_lamports hS hV))
  | stakes _ step =>
    exact absurd hless (UInt64.not_lt.2 (step.vault_lamports hS hsound hV))
  | resolves decoded step =>
    have hq := Pool.releases_of_settle step.counted
    obtain ⟨hhouse, hpays⟩ :=
      step.holds.paysFor hS hsound hq step.closes hV hless
    have hauthorised := step.authorised decoded
    rw [step.holds.house.symm.trans hhouse] at hauthorised
    exact ⟨_, _, _, hpays, hauthorised⟩
  | refunds decoded step =>
    have hq := Pool.releases_of_refund step.counted
    obtain ⟨hhouse, hpays⟩ :=
      step.holds.paysFor hS hsound hq step.closes hV hless
    have hauthorised := step.authorised decoded
    rw [step.holds.house.symm.trans hhouse] at hauthorised
    exact ⟨_, _, _, hpays, hauthorised⟩

namespace Sample

/-- The house settles the bet of the first run with some signature that wins. -/
def settling : Call where
  program := Key.game
  accounts := Call.accountsFor .resolveBet seats.key
  data := (Request.resolveBet (Block.replicate 64 3)).encode
  before := [Ed25519.Check.instruction ⟨house,
    Bet.message ⟨player, pool, 0, 5, 50, 1000000, 255⟩, Block.replicate 64 3⟩]
  index := 1

theorem settling_lawful : settling.Lawful (Known addresses) :=
  Call.lawful_known find?_addresses (by decide +kernel) (by decide +kernel)

end Sample

theorem outflow_authorised_first_run : ∃ B b paid,
    Sample.ledger.PaysFor (Sample.ledger.after Sample.settling)
        Sample.house Sample.vault B b paid
      ∧ Sample.ledger.Authorised Sample.settling Sample.house b paid := by
  have hvault := Sample.find?_addresses (.vault Sample.house, Sample.vault)
    (by simp [Sample.addresses])
  obtain ⟨⟨V, bump⟩, hfind, rfl⟩ := Option.map_eq_some_iff.1 hvault
  exact Ledger.Reachable.outflow_authorised Sample.apart Sample.reachable
    Sample.settling_lawful
    (List.mem_map.2 ⟨(.vault Sample.house, Sample.vault),
      by simp [Sample.addresses], rfl⟩) hfind (by decide +kernel)

end HouseDice
