import HouseDice.Proofs.Call.Closing

/-!
# What a settlement does

A settlement that goes well was signed for by the house of an open bet and comes
right behind an instruction that vouches for the house's signature on the bet.
A win asks the pool first, and the pool lets it have what is spendable and the
winner's own stake. A bet that is lost moves nothing out of the vault, which is
the same as a payment of zero.
-/

namespace HouseDice

open Address

variable {S : Set Purpose} {L M : Ledger} {c : Call} {x : Seats} {b : Bet}
  {p q : Pool} {s : Signature} {t : Game.Settlement}

/-- The ledger `M` is `L` after the house of a bet has settled it with the
signature `s`. -/
structure Ledger.Resolves (L : Ledger) (c : Call) (x : Seats) (b : Bet)
    (p q : Pool) (s : Signature) (t : Game.Settlement) (M : Ledger) : Prop where
  seated : c.Seated .resolveBet x
  holds : L.Holds x b p
  vouched :
    Ed25519.vouchPreceding c.index c.instruction? ⟨x.house, b.message, s⟩
      = .ok ()
  counted :
    p.after (Pool.settle (L.get x.vault).lamports Call.rentFloor b s)
      = .ok (t, q)
  closes : L.Closes x q t.payout M

theorem Ledger.Resolves.signed (h : L.Resolves c x b p q s t M) :
    c.rights.signs x.house :=
  h.seated.signed

theorem Pool.releases_of_settle {lamports floor : UInt64}
    (h : p.after (Pool.settle lamports floor b s) = .ok (t, q)) :
    Pool.Releases b.amount p q := by
  obtain ⟨_, _, openBets, lockedStakes, totalPaidOut, hopen, hlocked, _, rfl⟩ :=
    Pool.after_settle_eq_ok_iff.1 h
  exact ⟨rfl, rfl, rfl, rfl, hopen, hlocked, rfl, Nat.le_add_right _ _⟩

/-- A vault that holds its floor and all stakes pays a win out of the rest and
the winner's own. -/
theorem Pool.covered_of_settle {lamports floor : UInt64}
    (hbacked : floor.toNat + p.lockedStakes.toNat ≤ lamports.toNat)
    (h : p.after (Pool.settle lamports floor b s) = .ok (t, q)) :
    floor.toNat + p.lockedStakes.toNat + t.payout.toNat
      ≤ lamports.toNat + b.amount.toNat := by
  obtain ⟨_, hcover, _⟩ := Pool.after_settle_eq_ok_iff.1 h
  by_cases hwon : t.won
  · obtain ⟨funds, hfunds, hle⟩ := hcover hwon
    rw [UInt64.le_iff_toNat_le] at hle
    rw [Pool.spendable, Word.toNat_satSub, Game.available,
      Word.toNat_satSub] at hfunds
    omega
  · have hzero := Game.Settlement.payout_of_lost hwon
    omega

theorem Call.resolves_of_ok (hS : Apart S) (hL : Sound S L)
    (hprogram : c.program = Key.game) {e : Effects}
    (h : c.resolveBet L.get s = .ok e) : ∃ x b p q t,
      L.Resolves c x b p q s t (L.commit (c.accounts.map (·.key)) e.view)
        ∧ e.event = .betResolved x.bet x.player
          b.roll t.outcome t.won t.payout := by
  simp only [resolveBet, bind_eq_ok_iff, takeSigner_eq_ok_iff, take_eq_ok_iff,
    takeSystemProgram_eq_ok_iff, mayWrite_eq_ok_iff, Table.check_eq_ok_iff,
    OpenBet.check_eq_ok_iff, View.load_eq_ok_iff, ruled, mapError_eq_ok_iff,
    ensure_eq_ok_iff, exists_const, Prod.exists] at h
  obtain ⟨house, ⟨hhouse, hsigned⟩, player, hplayer, pool, hpool, p, hp, vault,
    hvault, bet, hbet, b, hb, instructions, hinstructions, hsystem, hwhouse,
    hwplayer, ⟨_, hwpool, hphouse, hpvault, _, hwvault⟩,
    ⟨_, hwbet, hbplayer, hbpool, _⟩, rfl, _, hvouched, t, q, hcount, h⟩ := h
  let x : Seats := ⟨house, player, pool, vault, bet⟩
  have hholds : L.Holds x b p := ⟨hb, hp, hbplayer, hbpool, hphouse, hpvault⟩
  have hnamed : c.Names .resolveBet x := by
    simp [Names, places, Seats.key, x, hplayer, hhouse, hpool, hvault, hbet,
      hinstructions, hsystem]
  -- Won or lost, the vault has paid what the settlement says.
  have hpaid : ∃ (left sum : UInt64) (e₀ : Effects),
      (L.get x.vault).lamports.toNat = left.toNat + t.payout.toNat
        ∧ sum.toNat = (L.get x.player).lamports.toNat + t.payout.toNat
        ∧ e₀.view = L.paidView x left sum q
        ∧ e₀.event = .betResolved bet b.player b.roll t.outcome t.won t.payout
        ∧ e₀.close x.bet x.player = .ok e := by
    split at h
    next hwon =>
      obtain ⟨_, hpay, hclose⟩ := bind_eq_ok_iff.1 h
      obtain ⟨_, _, _, _, left, sum, hleft, hsum, rfl⟩ :=
        (Table.pay_eq_ok_iff (hholds.stand hL).player_ne_vault.symm).1 hpay
      exact ⟨left, sum, _, hleft, hsum, rfl, rfl, hclose⟩
    next hlost =>
      rw [ok_bind] at h
      have hzero : t.payout.toNat = 0 := Game.Settlement.payout_of_lost hlost
      refine ⟨(L.get x.vault).lamports, (L.get x.player).lamports, _,
        ?_, ?_, ?_, rfl, h⟩
      · rw [hzero, Nat.add_zero]
      · rw [hzero, Nat.add_zero]
      · exact (L.paidView_same x q).symm
  obtain ⟨left, sum, e₀, hleft, hsum, hview, hevent, hclose⟩ := hpaid
  rw [hphouse] at hvouched
  have hseated : c.Seated .resolveBet x :=
    ⟨hprogram, hnamed, by
      simp [places, Seats.key, x, hsigned, hwhouse, hwplayer, hwpool, hwvault,
        hwbet]⟩
  refine ⟨x, b, p, q, t, ⟨hseated, hholds, hvouched, hcount, ?_⟩, ?_⟩
  · exact closes_of_effects hS hL hholds (hnamed.mem_seats (by simp))
      hleft hsum hview hclose
  · obtain ⟨_, _, rfl⟩ := Effects.close_eq_ok_iff.1 hclose
    show e₀.event = _
    rw [hevent, hbplayer]

theorem Ledger.Resolves.stepsTo (hL : Sound S L)
    (h : L.Resolves c x b p q s t M) :
    L.StepsTo S x p q M :=
  h.closes.stepsTo hL h.holds (Pool.releases_of_settle h.counted)

theorem Ledger.Resolves.sound (hS : Apart S) (hL : Sound S L)
    (h : L.Resolves c x b p q s t M) :
    Sound S M := by
  have hbacked := (h.holds.goodPool hL).backed
  rw [h.holds.vault] at hbacked
  exact hL.closes hS h.holds (Pool.releases_of_settle h.counted)
    (Pool.covered_of_settle hbacked h.counted) h.closes

/-! ## The way back -/

/-- With the right accounts and the house's word a settlement comes to what the
pool says. -/
theorem Call.resolveBet_eq (hL : Sound S L) (hc : c.Seated .resolveBet x)
    (h : L.Holds x b p)
    (hvouched : Ed25519.vouchPreceding c.index c.instruction?
      ⟨x.house, b.message, s⟩ = .ok ()) :
    c.resolveBet L.get s = (do
      let (settlement, state) ←
        ruled (p.after (Pool.settle (L.get x.vault).lamports rentFloor b s))
      let v ←
        if settlement.won then
          Table.pay ⟨x.house, x.pool, x.vault, p⟩ c L.get x.player
            settlement.payout
        else .ok L.get
      let effects : Effects := {
        view := v.save Pool.record x.pool state
        event := .betResolved x.bet b.player
          b.roll settlement.outcome settlement.won settlement.payout
        log := [resolvedLine b.roll settlement] }
      effects.close x.bet x.player) := by
  have hkey : c.key? 0 = some x.house ∧ c.key? 1 = some x.player
      ∧ c.key? 2 = some x.pool
      ∧ c.key? 3 = some x.vault ∧ c.key? 4 = some x.bet
      ∧ c.key? 5 = some Key.instructions
      ∧ c.key? 6 = some Key.system := by
    simpa [Names, places, Seats.key] using hc.named
  obtain ⟨hsigned, hhouseWrites⟩ :=
    hc.rights ⟨.house, true, true⟩ (by simp [places])
  have hwrites := hc.writes (by simp)
  obtain ⟨hhouse, hplayer, hpool, hvault, hbet, hinstructions, hsystem⟩ := hkey
  have hprogram : c.takeSystemProgram 6 = .ok () :=
    takeSystemProgram_eq_ok_iff.2 hsystem
  have hwhouse : c.mayWrite x.house .house = .ok () :=
    mayWrite_eq_ok_iff.2 (hhouseWrites rfl)
  have hwplayer : c.mayWrite x.player .player = .ok () :=
    mayWrite_eq_ok_iff.2 (hwrites x.player (by simp))
  have hsysvar : ∀ [Decidable True],
      ensure True (Failure.check .wrongAddress (some .instructions)) = .ok () :=
    ensure_eq_ok_iff.2 trivial
  rw [← h.house] at hvouched
  simp only [resolveBet, takeSigner_eq_ok_iff.2 ⟨hhouse, hsigned rfl⟩,
    take_eq_ok_iff.2 hplayer, take_eq_ok_iff.2 hpool, take_eq_ok_iff.2 hvault,
    take_eq_ok_iff.2 hbet, take_eq_ok_iff.2 hinstructions, hprogram, hwhouse,
    hwplayer, hsysvar, h.load_pool, h.load_bet, h.table_check hL hwrites,
    h.bet_check hL hwrites, mapError_eq_ok_iff.2 hvouched, ok_bind]

/-- What the pool refuses is refused, and nothing else is to blame. -/
theorem Call.resolveBet_of_error (hL : Sound S L) (hc : c.Seated .resolveBet x)
    (h : L.Holds x b p)
    (hvouched : Ed25519.vouchPreceding c.index c.instruction?
      ⟨x.house, b.message, s⟩ = .ok ())
    {f : GameError}
    (hf : p.after (Pool.settle (L.get x.vault).lamports rentFloor b s)
      = .error f) :
    c.resolveBet L.get s = .error (.game f none) := by
  rw [resolveBet_eq hL hc h hvouched, hf]
  rfl

/-- What the pool grants is paid. -/
theorem Call.resolveBet_of_ok (hS : Apart S) (hL : Sound S L)
    (hc : c.Seated .resolveBet x) (h : L.Holds x b p)
    (htotal : L.total < UInt64.size)
    (hvouched : Ed25519.vouchPreceding c.index c.instruction?
      ⟨x.house, b.message, s⟩ = .ok ())
    (hq : p.after (Pool.settle (L.get x.vault).lamports rentFloor b s)
      = .ok (t, q)) :
    ∃ e, c.resolveBet L.get s = .ok e := by
  have hx := h.stand hL
  have hwrites := hc.writes (by simp)
  have hgood := h.goodPool hL
  have hvaultData := hgood.vaultData
  have hvaultOwner := hgood.vaultOwner
  have hbacked := hgood.backed
  rw [h.vault] at hvaultData hvaultOwner hbacked
  have hcovers : t.payout.toNat ≤ (L.get x.vault).lamports.toNat := by
    have hcovered := Pool.covered_of_settle hbacked hq
    have hcounted := (h.counted hL).2
    omega
  obtain ⟨left, sum, purse, hleft, hsum, hpurse⟩ :=
    h.balances hS hL htotal hcovers
  have hruled : ruled (.ok (t, q)) = .ok (t, q) := rfl
  rw [resolveBet_eq hL hc h hvouched, hq, hruled]
  simp only [ok_bind]
  split
  next hwon =>
    have hpay :
        Table.pay ⟨x.house, x.pool, x.vault, p⟩ c L.get x.player t.payout
          = .ok _ :=
      (Table.pay_eq_ok_iff hx.player_ne_vault.symm).2
        ⟨hwrites _ (by simp), hwrites _ (by simp), hvaultData, .inl hvaultOwner,
          left, sum, hleft, hsum, rfl⟩
    simp only [hpay, ok_bind]
    refine ⟨_, Effects.close_eq_ok_iff.2 ⟨purse, ?_, rfl⟩⟩
    show purse.toNat = (L.paidView x left sum q x.player).lamports.toNat
      + (L.paidView x left sum q x.bet).lamports.toNat
    rw [Ledger.paidView_player hx, Ledger.paidView_bet hS hx]
    exact hpurse
  next hlost =>
    have hzero : t.payout.toNat = 0 := Game.Settlement.payout_of_lost hlost
    have hsame := L.paidView_same x q
    refine ⟨_, Effects.close_eq_ok_iff.2 ⟨purse, ?_, rfl⟩⟩
    show purse.toNat
      = (View.save L.get Pool.record x.pool q x.player).lamports.toNat
      + (View.save L.get Pool.record x.pool q x.bet).lamports.toNat
    rw [← hsame, Ledger.paidView_player hx, Ledger.paidView_bet hS hx, hpurse,
      hsum, hzero]
    rfl

/-- With the right accounts and the house's word, what the pool grants is
settled. -/
theorem Ledger.Holds.resolves (hS : Apart S) (hL : Sound S L)
    (h : L.Holds x b p) (htotal : L.total < UInt64.size)
    (hc : c.Seated .resolveBet x)
    (hdecode : Request.decode c.data = .ok (.resolveBet s))
    (hvouched : Ed25519.vouchPreceding c.index c.instruction?
      ⟨x.house, b.message, s⟩ = .ok ())
    (hq : p.after (Pool.settle (L.get x.vault).lamports Call.rentFloor b s)
      = .ok (t, q)) :
    ∃ M, L.Resolves c x b p q s t M
      ∧ (L.run c).result
        = .ok (M,
          .betResolved x.bet x.player b.roll t.outcome t.won t.payout) := by
  obtain ⟨e, he⟩ := Call.resolveBet_of_ok hS hL hc h htotal hvouched hq
  obtain ⟨x', b', p', q', t', hstep, hevent⟩ :=
    Call.resolves_of_ok hS hL hc.program he
  have heffects : c.effects L.slot L.get = .ok e :=
    Call.effects_eq_ok_iff.2 ⟨hc.program, _, hdecode, he⟩
  cases hstep.seated.named.unique (by simp) hc.named
  cases hstep.holds.bet.symm.trans h.bet
  cases hstep.holds.pool.symm.trans h.pool
  cases hstep.counted.symm.trans hq
  refine ⟨_, hstep, ?_⟩
  rw [Ledger.run_of_ok heffects, hevent]

end HouseDice
