import HouseDice.Proofs.Call.Closing

/-!
# What placing a bet does

A bet that is placed stands at an address where nothing stood before. The call
also lets an account of the program be there already, as long as it holds no
open bet, but in a sound ledger every bet is open, so that case never comes up.
The player pays the stake into the vault and what the new account lacks of its
rent, and the pool counts the stake after it has seen that it can pay the
highest win out of what was there before.
-/

namespace HouseDice

open Address

variable {S : Set Purpose} {L M : Ledger} {c : Call} {x : Seats} {seed : Seed}
  {amount : UInt64} {roll bump : UInt8} {p q : Pool}

/-! ## The step -/

def Seats.bets (x : Seats) (seed : Seed) (slot : UInt64) (roll : UInt8)
    (amount : UInt64) (bump : UInt8) : Bet :=
  ⟨x.player, x.pool, seed, slot, roll, amount, bump⟩

/-- The ledger `M` is `L` after a player has placed a bet. -/
structure Ledger.Stakes (S : Set Purpose) (L : Ledger) (c : Call) (x : Seats)
    (seed : Seed) (amount : UInt64) (roll bump : UInt8) (p q : Pool)
    (M : Ledger) : Prop where
  seated : c.Seated .placeBet x
  payer : (L.get x.player).owner = Key.system ∧ (L.get x.player).data = []
  person : x.player ≠ Key.system
  stand : x.Stand S seed
  find : find? (.bet x.vault seed) = some (x.bet, bump)
  pool : L.pool? x.pool = some p
  house : p.house = x.house
  vault : p.vault = x.vault
  free : (L.get x.bet).owner = Key.system ∧ (L.get x.bet).data = []
  counted :
    p.after (Pool.accept (L.get x.vault).lamports Call.rentFloor amount roll)
      = .ok ((), q)
  moved : ∃ purse vault rent : UInt64,
    vault.toNat = (L.get x.vault).lamports.toNat + amount.toNat
      ∧ rent.toNat = max (L.get x.bet).lamports.toNat
        (Ledger.rentMinimum Bet.record.size).toNat
      ∧ (L.get x.player).lamports.toNat + (L.get x.bet).lamports.toNat
        = purse.toNat + amount.toNat + rent.toNat
      ∧ M = L.betStep x purse vault q
        ⟨rent, Key.game,
          Bet.record.encode (x.bets seed L.slot roll amount bump)⟩

section

variable {rent : UInt64}

theorem Ledger.Stakes.blank (h : L.Stakes S c x seed amount roll bump p q M)
    {α : Type} (r : Record α) : (L.get x.bet).stored? r = none := by
  refine Account.stored?_of_owner_ne ?_
  rw [h.free.1]
  exact Key.system_ne_game

theorem Seats.stored_bets (x : Seats) (seed : Seed) (slot : UInt64)
    (roll : UInt8) (amount : UInt64) (bump : UInt8) (rent : UInt64) :
    Account.bet? ⟨rent, Key.game,
      Bet.record.encode (x.bets seed slot roll amount bump)⟩
      = some (x.bets seed slot roll amount bump) :=
  Account.stored?_of_data rfl rfl

theorem Ledger.Stakes.steps (h : L.Stakes S c x seed amount roll bump p q M)
    (hrent : (Ledger.rentMinimum Bet.record.size).toNat ≤ rent.toNat) :
    L.Steps S x p q
      ⟨rent, Key.game,
        Bet.record.encode (x.bets seed L.slot roll amount bump)⟩ := by
  obtain ⟨_, _, openBets, lockedStakes, totalWagered, _, _, _, rfl⟩ :=
    Pool.after_accept_eq_ok_iff.1 h.counted
  have hpos : 0 < (Ledger.rentMinimum Bet.record.size).toNat := by decide
  have hkept : rent ≠ 0 := Word.ne_zero_of_toNat_pos (by omega)
  exact ⟨⟨seed, h.stand⟩, h.pool, rfl, rfl, rfl, rfl, h.blank Pool.record,
    Account.pool?_of_bet? (x.stored_bets seed L.slot roll amount bump rent),
    Account.kept_of_lamports_ne hkept⟩

end

theorem Ledger.Stakes.stepsTo (h : L.Stakes S c x seed amount roll bump p q M) :
    L.StepsTo S x p q M := by
  obtain ⟨purse, vault, rent, _, hrent, _, hM⟩ := h.moved
  exact ⟨purse, vault, _, h.steps (hrent ▸ Nat.le_max_right _ _), hM⟩

theorem Ledger.Stakes.bet?_bet (h : L.Stakes S c x seed amount roll bump p q M)
    (hS : Apart S) :
    M.bet? x.bet = some (x.bets seed L.slot roll amount bump) := by
  obtain ⟨purse, vault, rent, _, hrent, _, rfl⟩ := h.moved
  rw [(h.steps (hrent ▸ Nat.le_max_right _ _)).bet?_bet hS, x.stored_bets]

theorem Ledger.Stakes.sound (hS : Apart S) (hL : Sound S L)
    (h : L.Stakes S c x seed amount roll bump p q M) : Sound S M := by
  obtain ⟨purse, vault, rent, hvault, hrent, _, rfl⟩ := h.moved
  have hsteps := h.steps (hrent ▸ Nat.le_max_right _ _)
  obtain ⟨hvalid, ⟨most, hmost, _⟩, openBets, lockedStakes, totalWagered, hopen,
    hlocked, hwagered, rfl⟩ := Pool.after_accept_eq_ok_iff.1 h.counted
  have hgood := hL.pool x.pool p h.pool
  have hbacked := hgood.backed
  have hrefunded := hgood.refunded
  rw [h.vault] at hbacked
  have hnew := x.stored_bets seed L.slot roll amount bump rent
  have hcounts : ∀ measure, Ledger.tallyIn x.pool measure
      ⟨rent, Key.game, Bet.record.encode (x.bets seed L.slot roll amount bump)⟩
        = measure (x.bets seed L.slot roll amount bump) := by
    intro measure
    have hpool : (x.bets seed L.slot roll amount bump).pool = x.pool := rfl
    rw [Ledger.tallyIn_of_bet? hnew, if_pos hpool]
  refine hL.betStep hS hsteps ?_
  exact {
    openBets := by
      rw [Ledger.tallyIn_of_none (h.blank Bet.record), hcounts]
      exact hopen
    lockedStakes := by
      rw [Ledger.tallyIn_of_none (h.blank Bet.record), hcounts]
      exact hlocked
    refunded := by
      show p.totalRefunded.toNat + lockedStakes.toNat ≤ totalWagered.toNat
      omega
    backed := by
      show Call.rentFloor.toNat + lockedStakes.toNat ≤ vault.toNat
      omega
    stored := fun _ => ⟨_, rfl⟩
    stands := fun b hb => by
      rw [hnew, Option.some.injEq] at hb
      subst hb
      exact ⟨rfl, ⟨h.stand.bet.1, h.find, h.person, h.stand.player, hvalid,
        most, hmost⟩, UInt64.le_refl _⟩ }

/-! ## From the call to the step -/

/-- What a call sees once the bet's account is open and the stake is paid. -/
def Ledger.stakedView (L : Ledger) (x : Seats) (left purse vault rent : UInt64)
    (q : Pool) (b : Bet) : View :=
  let opened :=
    (View.put L.get x.player { L.get x.player with lamports := left }).put x.bet
      ⟨rent, Key.game, List.replicate Bet.record.size 0⟩
  let paid := (opened.put x.player
    { L.get x.player with lamports := purse }).put x.vault
    { L.get x.vault with lamports := vault }
  (paid.save Pool.record x.pool q).save Bet.record x.bet b

theorem Ledger.commit_stakedView (hS : Apart S) (hx : x.Stand S seed)
    (hsize : (L.get x.pool).data.length = Pool.record.size) {keys : List Key}
    (hkeys : ∀ k ∈ [x.player, x.pool, x.vault, x.bet], k ∈ keys)
    (left purse vault rent : UInt64) (q : Pool) (b : Bet) :
    L.commit keys (L.stakedView x left purse vault rent q b)
      = L.betStep x purse vault q ⟨rent, Key.game, Bet.record.encode b⟩ := by
  have hpv := hx.pool_ne_vault hS
  have hpb := hx.pool_ne_bet hS
  have hvb := hx.vault_ne_bet hS
  have hspace : (List.replicate Bet.record.size (0 : UInt8)).length
      = Bet.record.size :=
    List.length_replicate
  unfold stakedView View.save
  refine Ledger.commit_eq_setAll (hx.nodup hS) hkeys ?_ ?_
  · intro k a hk
    simp only [List.mem_cons, List.not_mem_nil, or_false, Prod.mk.injEq] at hk
    rcases hk with ⟨rfl, rfl⟩ | ⟨rfl, rfl⟩ | ⟨rfl, rfl⟩ | ⟨rfl, rfl⟩
    · rw [View.put_of_ne _ hx.player_ne_bet, View.put_of_ne _ hx.player_ne_pool,
        View.put_of_ne _ hx.player_ne_vault, View.put_self]
    · rw [View.put_of_ne _ hpb, View.put_self, View.put_of_ne _ hpv,
        View.put_of_ne _ hx.player_ne_pool.symm, View.put_of_ne _ hpb,
        View.put_of_ne _ hx.player_ne_pool.symm,
        Record.overwrite_of_length_eq _ hsize]
    · rw [View.put_of_ne _ hvb, View.put_of_ne _ hpv.symm, View.put_self]
    · rw [View.put_self, View.put_of_ne _ hpb.symm, View.put_of_ne _ hvb.symm,
        View.put_of_ne _ hx.player_ne_bet.symm, View.put_self,
        Record.overwrite_of_length_eq _ hspace]
  · intro k hk
    simp only [List.map_cons, List.map_nil, List.mem_cons, List.not_mem_nil,
      or_false, not_or] at hk
    obtain ⟨hplayer, hpool, hvault, hbet⟩ := hk
    rw [View.put_of_ne _ hbet, View.put_of_ne _ hpool, View.put_of_ne _ hvault,
      View.put_of_ne _ hplayer, View.put_of_ne _ hbet, View.put_of_ne _ hplayer]

/-- The bet's account is opened, then the stake is paid; the player pays each
time. -/
theorem Ledger.stakedView_of_ok (hS : Apart S) (hx : x.Stand S seed)
    {v w : View}
    (hopen : c.Opens L.get x.player x.bet Bet.record.size Key.game w)
    (hpay : SystemProgram.transfer c.rights w x.player x.vault amount = .ok v)
    (q : Pool) (b : Bet) :
    w x.vault = L.get x.vault ∧ (L.get x.player).data = []
      ∧ ((L.get x.player).owner = Key.system ∨ amount = 0)
      ∧ ∃ left purse vault rent : UInt64,
      vault.toNat = (L.get x.vault).lamports.toNat + amount.toNat
        ∧ rent.toNat = max (L.get x.bet).lamports.toNat
          (Ledger.rentMinimum Bet.record.size).toNat
        ∧ (L.get x.player).lamports.toNat + (L.get x.bet).lamports.toNat
          = purse.toNat + amount.toNat + rent.toNat
        ∧ (v.save Pool.record x.pool q).save Bet.record x.bet b
          = L.stakedView x left purse vault rent q b := by
  obtain ⟨left, rent, hrent, hleft, hw⟩ := hopen.view
  have hvault : w x.vault = L.get x.vault := by
    rw [hw, View.put_of_ne _ (hx.vault_ne_bet hS),
      View.put_of_ne _ hx.player_ne_vault.symm]
  have hplayer : w x.player = { L.get x.player with lamports := left } := by
    rw [hw, View.put_of_ne _ hx.player_ne_bet, View.put_self]
  obtain ⟨_, _, _, hdata, howner, purse, sum, hpurse, hsum, hv⟩ :=
    (SystemProgram.transfer_eq_ok_iff hx.player_ne_vault).1 hpay
  rw [hplayer] at hdata howner hpurse hv
  rw [hvault] at hsum hv
  have hpurse : left.toNat = purse.toNat + amount.toNat := hpurse
  refine ⟨hvault, hdata, howner, left, purse, sum, rent, hsum, hrent,
    by omega, ?_⟩
  rw [hv, hw]
  rfl

namespace Call

/-- No bet is found where a new one may be placed. -/
theorem betAccount_of_ok (hL : Sound S L) {player bet : Key} {w : View}
    {found : Option Bet} (hne : player ≠ bet)
    (h : c.betAccount L.get player bet = .ok (w, found))
    (hfound : unoccupied found = .ok ()) :
    c.Opens L.get player bet Bet.record.size Key.game w := by
  unfold betAccount at h
  split at h
  next howner =>
    simp only [bind_eq_ok_iff, pure, Except.pure, Except.ok.injEq,
      Prod.mk.injEq] at h
    obtain ⟨_, hopen, rfl, _⟩ := h
    exact (openAccount_eq_ok_iff hne (by decide)).1 hopen
  next howner =>
    simp only [bind_eq_ok_iff, View.load_eq_ok_iff, pure, Except.pure,
      Except.ok.injEq, Prod.mk.injEq] at h
    obtain ⟨b, hb, _, rfl⟩ := h
    -- The bet that stands there has a player.
    obtain ⟨p, _, hstands⟩ := (hL.bet bet b hb).pool
    have hclosed : b.isOpen = false := ensure_eq_ok_iff.1 hfound
    have hzero : b.player = Key.system := by simpa [Bet.isOpen] using hclosed
    exact absurd hzero hstands.player

theorem stakes_of_ok (hS : Apart S) (hL : Sound S L) (hc : c.Lawful S)
    (hprogram : c.program = Key.game) {e : Effects}
    (hdecode : Request.decode c.data = .ok (.placeBet seed amount roll))
    (h : c.placeBet L.slot L.get seed amount roll = .ok e) : ∃ x bump p q,
      L.Stakes S c x seed amount roll bump p q
        (L.commit (c.accounts.map (·.key)) e.view)
        ∧ e.event
          = .betPlaced x.bet x.player x.pool seed amount roll L.slot := by
  simp only [placeBet, bind_eq_ok_iff, takeSigner_eq_ok_iff, take_eq_ok_iff,
    takeNew_eq_ok_iff, takeSystemProgram_eq_ok_iff, mayWrite_eq_ok_iff,
    Table.check_eq_ok_iff, checkBetAccount, View.load_eq_ok_iff, ruled, granted,
    mapError_eq_ok_iff, ensure_eq_ok_iff, exists_const, derived_eq_ok_iff,
    Prod.exists, pure, Except.pure, Except.ok.injEq] at h
  obtain ⟨player, ⟨hplayer, hsigned⟩, house, hhouse, pool, hpool, p, hp, vault,
    hvault, bet, hbet, hsystem, bump, hfind, w, found, haccount, ⟨_, _, hwbet⟩,
    hwplayer, ⟨_, hwpool, hphouse, hpvault, _, hwvault⟩, _, hfound, _, q,
    hcount, _, hpay, rfl⟩ := h
  let x : Seats := ⟨house, player, pool, vault, bet⟩
  have hnamed : c.Names .placeBet x := by
    simp [Names, places, Seats.key, x, hplayer, hhouse, hpool, hvault, hbet,
      hsystem]
  have hmem : Purpose.bet vault seed ∈ S := by
    refine hc.opens _ ?_
    obtain ⟨a, ha, rfl⟩ := Option.map_eq_some_iff.1 hvault
    simp [opens, hdecode, ha]
  obtain ⟨hperson, hplayerOut⟩ := hc.signer player hsigned
  have hpoolOf := (hL.pool pool p hp).stands.pool
  have hvaultOf := (hL.pool pool p hp).stands.vault
  rw [hphouse] at hpoolOf hvaultOf
  rw [hpvault] at hvaultOf
  have hx : x.Stand S seed :=
    ⟨hpoolOf, hvaultOf, ⟨hmem, bump, hfind⟩, hplayerOut⟩
  have hopen : c.Opens L.get player bet Bet.record.size Key.game w :=
    betAccount_of_ok hL hx.player_ne_bet haccount hfound
  obtain ⟨hvaultView, hdata, howner, left, purse, sum, rent, hsum, hrent,
    hpurse, hview⟩ :=
    Ledger.stakedView_of_ok hS hx hopen hpay q
      (x.bets seed L.slot roll amount bump)
  have hcount : p.after (Pool.accept (w x.vault).lamports rentFloor amount roll)
      = .ok ((), q) :=
    hcount
  rw [hvaultView] at hcount
  have hsize : (L.get pool).data.length = Pool.record.size :=
    hL.length_of_pool? hp
  have hseated : c.Seated .placeBet x :=
    ⟨hprogram, hnamed,
      by simp [places, Seats.key, x, hsigned, hwplayer, hwpool, hwvault, hwbet]⟩
  have hstaked : amount ≠ 0 := by
    obtain ⟨hvalid, _⟩ := Pool.after_accept_eq_ok_iff.1 hcount
    exact (UInt64.ne_of_lt (Game.validate_eq_ok_iff.1 hvalid).1).symm
  have hpayer : (L.get player).owner = Key.system ∧ (L.get player).data = [] :=
    ⟨howner.resolve_right hstaked, hdata⟩
  refine ⟨x, bump, p, q,
    ⟨hseated, hpayer, hperson, hx, hfind, hp, hphouse, hpvault,
      ⟨hopen.system, hopen.data⟩, hcount, purse, sum, rent, hsum, hrent, hpurse,
      ?_⟩, rfl⟩
  exact (congrArg _ hview).trans (Ledger.commit_stakedView hS hx hsize
    (hnamed.mem_seats (by simp)) left purse sum rent q _)

/-! ## The way back -/

/-- With the right accounts a bet is placed as far as its own account and the
pool allow. -/
theorem placeBet_eq (hL : Sound S L) (hc : c.Seated .placeBet x)
    (hp : L.pool? x.pool = some p) (hhouse : p.house = x.house)
    (hvault : p.vault = x.vault)
    (hfind : find? (.bet x.vault seed) = some (x.bet, bump)) :
    c.placeBet L.slot L.get seed amount roll = (do
      let (v, found) ← c.betAccount L.get x.player x.bet
      c.checkBetAccount v x.bet
      ruled (unoccupied found)
      let ((), state) ←
        ruled (p.after (Pool.accept (v x.vault).lamports rentFloor amount roll))
      let v ← granted
        (SystemProgram.transfer c.rights v x.player x.vault amount)
      let v := v.save Pool.record x.pool state
      return {
        view := v.save Bet.record x.bet (x.bets seed L.slot roll amount bump)
        event := .betPlaced x.bet x.player x.pool seed amount roll L.slot
        log := [] }) := by
  have hkey : c.key? 0 = some x.player ∧ c.key? 1 = some x.house
      ∧ c.key? 2 = some x.pool
      ∧ c.key? 3 = some x.vault ∧ c.key? 4 = some x.bet
      ∧ c.key? 5 = some Key.system := by
    simpa [Names, places, Seats.key] using hc.named
  have hsigned : c.rights.signs x.player :=
    (hc.rights ⟨.player, true, true⟩ (by simp [places])).1 rfl
  have hwrites := hc.writes (by simp)
  obtain ⟨hkplayer, hkhouse, hkpool, hkvault, hkbet, hsystem⟩ := hkey
  have hprogram : c.takeSystemProgram 5 = .ok () :=
    takeSystemProgram_eq_ok_iff.2 hsystem
  have hwritable : c.mayWrite x.player .player = .ok () :=
    mayWrite_eq_ok_iff.2 (hwrites x.player (by simp))
  have hload : View.load L.get Pool.record x.pool .pool = .ok p :=
    View.load_eq_ok_iff.2 hp
  have htable := (hL.pool x.pool p hp).table_check hhouse hvault hwrites
  simp only [placeBet, takeSigner_eq_ok_iff.2 ⟨hkplayer, hsigned⟩,
    take_eq_ok_iff.2 hkhouse, take_eq_ok_iff.2 hkpool, take_eq_ok_iff.2 hkvault,
    takeNew_eq_ok_iff.2 hkbet, hprogram, hwritable, hload, htable,
    derived_eq_ok_iff.2 hfind, ok_bind]
  rfl

/-- A bet is placed where nothing stands, if the pool accepts it and the player
can pay. -/
theorem placeBet_of_ok (hS : Apart S) (hL : Sound S L)
    (hc : c.Seated .placeBet x) (hx : x.Stand S seed)
    (hp : L.pool? x.pool = some p) (hhouse : p.house = x.house)
    (hvault : p.vault = x.vault)
    (hfind : find? (.bet x.vault seed) = some (x.bet, bump))
    (hfree : (L.get x.bet).owner = Key.system ∧ (L.get x.bet).data = [])
    (hpayer : (L.get x.player).owner = Key.system ∧ (L.get x.player).data = [])
    (hq : p.after (Pool.accept (L.get x.vault).lamports rentFloor amount roll)
      = .ok ((), q))
    (hfits : (L.get x.vault).lamports.toNat + amount.toNat < UInt64.size)
    (henough :
      amount.toNat
        + max (L.get x.bet).lamports.toNat
          (Ledger.rentMinimum Bet.record.size).toNat
      ≤ (L.get x.player).lamports.toNat + (L.get x.bet).lamports.toNat) :
    ∃ e, c.placeBet L.slot L.get seed amount roll = .ok e := by
  have hsigned : c.rights.signs x.player :=
    (hc.rights ⟨.player, true, true⟩ (by simp [places])).1 rfl
  have hwrites := hc.writes (by simp)
  obtain ⟨w, left, funded, hopen, hfunded, hleft, hwplayer, hwbet, hwother⟩ :=
    exists_opens Bet.record.size Key.game hx.player_ne_bet hsigned
      (hwrites _ (by simp)) (hwrites _ (by simp)) hpayer hfree (by omega)
  have hwvault : w x.vault = L.get x.vault :=
    hwother _ hx.player_ne_vault.symm (hx.vault_ne_bet hS)
  have hpayer' : (w x.player).owner = Key.system ∧ (w x.player).data = [] := by
    rw [hwplayer]
    exact hpayer
  have hleftEq : (w x.player).lamports.toNat = left.toNat := by rw [hwplayer]
  rw [← hwvault] at hfits
  obtain ⟨v, hpaid⟩ :=
    SystemProgram.transfer_of_enough amount hx.player_ne_vault hsigned
      (hwrites _ (by simp)) (hwrites _ (by simp)) hpayer' (by omega) hfits
  have haccount : c.betAccount L.get x.player x.bet = .ok (w, none) := by
    rw [betAccount, if_pos hfree.1,
      (openAccount_eq_ok_iff hx.player_ne_bet (by decide)).2 hopen]
    rfl
  have hcheck : c.checkBetAccount w x.bet = .ok () := by
    simp only [checkBetAccount, bind_eq_ok_iff, ensure_eq_ok_iff,
      mayWrite_eq_ok_iff, exists_const]
    refine ⟨?_, (), hopen.holdsRent .bet, hwrites x.bet (by simp)⟩
    rw [hwbet, List.length_replicate]
  have hunoccupied : ruled (unoccupied none) = .ok () := rfl
  have hruled : ruled (.ok ((), q)) = .ok ((), q) := rfl
  have hpay : granted
      (SystemProgram.transfer c.rights w x.player x.vault amount) = .ok v :=
    mapError_eq_ok_iff.2 hpaid
  rw [placeBet_eq hL hc hp hhouse hvault hfind, haccount]
  simp only [ok_bind, hcheck, hunoccupied, hwvault, hq, hruled, hpay]
  exact ⟨_, rfl⟩

/-- Where a bet is open, none is placed, and that is the cause that is given. -/
theorem placeBet_of_open (hL : Sound S L) (hc : c.Seated .placeBet x)
    (hp : L.pool? x.pool = some p) (hhouse : p.house = x.house)
    (hvault : p.vault = x.vault)
    (hfind : find? (.bet x.vault seed) = some (x.bet, bump)) {b : Bet}
    (hb : L.bet? x.bet = some b)
    (hrent : Ledger.rentMinimum (L.get x.bet).data.length
      ≤ (L.get x.bet).lamports) :
    c.placeBet L.slot L.get seed amount roll
      = .error (.game .duplicateSeed none) := by
  have howner : (L.get x.bet).owner ≠ Key.system := by
    rw [Account.owner_of_stored? hb]
    exact Key.system_ne_game.symm
  have hload : View.load L.get Bet.record x.bet .bet = .ok b :=
    View.load_eq_ok_iff.2 hb
  have haccount : c.betAccount L.get x.player x.bet = .ok (L.get, some b) := by
    rw [betAccount, if_neg howner, hload]
    rfl
  have hcheck : c.checkBetAccount L.get x.bet = .ok () := by
    simp only [checkBetAccount, holdsRent, bind_eq_ok_iff, ensure_eq_ok_iff,
      mayWrite_eq_ok_iff, exists_const]
    exact ⟨hL.length_of_bet? hb, hrent, hc.writes (by simp) x.bet (by simp)⟩
  have hopen : unoccupied (some b) = .error .duplicateSeed := by
    obtain ⟨_, _, hstands⟩ := (hL.bet x.bet b hb).pool
    refine ensure_eq_error_iff.2 ⟨?_, rfl⟩
    simp [Bet.isOpen, hstands.player]
  rw [placeBet_eq hL hc hp hhouse hvault hfind, haccount]
  simp only [ok_bind, hcheck, hopen]
  rfl

end Call

/-- With the right accounts, what the player can pay and the pool accepts is
placed as asked. -/
theorem Ledger.stakes_of_accepted (hS : Apart S) (hL : Sound S L)
    (hlawful : c.Lawful S)
    (hdecode : Request.decode c.data = .ok (.placeBet seed amount roll))
    (hc : c.Seated .placeBet x) (hx : x.Stand S seed)
    (hp : L.pool? x.pool = some p) (hhouse : p.house = x.house)
    (hvault : p.vault = x.vault)
    (hfind : find? (.bet x.vault seed) = some (x.bet, bump))
    (hfree : (L.get x.bet).owner = Key.system ∧ (L.get x.bet).data = [])
    (hpayer : (L.get x.player).owner = Key.system ∧ (L.get x.player).data = [])
    (hq :
      p.after (Pool.accept (L.get x.vault).lamports Call.rentFloor amount roll)
        = .ok ((), q))
    (hfits : (L.get x.vault).lamports.toNat + amount.toNat < UInt64.size)
    (henough :
      amount.toNat
        + max (L.get x.bet).lamports.toNat
          (Ledger.rentMinimum Bet.record.size).toNat
      ≤ (L.get x.player).lamports.toNat + (L.get x.bet).lamports.toNat) :
    ∃ M, L.Stakes S c x seed amount roll bump p q M
      ∧ (L.run c).result
        = .ok (M,
          .betPlaced x.bet x.player x.pool seed amount roll L.slot) := by
  obtain ⟨e, he⟩ :=
    Call.placeBet_of_ok hS hL hc hx hp hhouse hvault hfind hfree hpayer hq hfits
      henough
  obtain ⟨x', bump', p', q', hstep, hevent⟩ :=
    Call.stakes_of_ok hS hL hlawful hc.program hdecode he
  have heffects : c.effects L.slot L.get = .ok e :=
    Call.effects_eq_ok_iff.2 ⟨hc.program, _, hdecode, he⟩
  -- The call names these seats, and they tell everything else.
  cases hstep.seated.named.unique (by simp) hc.named
  cases hstep.find.symm.trans hfind
  cases hstep.pool.symm.trans hp
  cases hstep.counted.symm.trans hq
  refine ⟨_, hstep, ?_⟩
  rw [run_of_ok heffects, hevent]

end HouseDice
