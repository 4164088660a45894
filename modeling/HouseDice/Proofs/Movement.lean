import HouseDice.Proofs.Reachable

/-!
# What a call moves

An account is its lamports and its content, which is its owner and its data. A
call that goes well changes the content of one pool and of one bet, or founds a
pool, and everything else it does is to move lamports. How many go where depends
on the amounts of the call and on what the accounts lacked of their rent, and on
nothing else in the ledger; so each call has one function from keys to integers
that says what it adds, the same for all ledgers in which those few numbers
agree. All calls only move: what they add sums up to zero.
-/

namespace HouseDice

open Address

variable {S : Set Purpose} {L M : Ledger} {c : Call} {x : Seats} {b : Bet}
  {p q : Pool}

/-- The lamports under a key. -/
def Ledger.lamports (L : Ledger) (k : Key) : ℤ := (L.get k).lamports.toNat

/-- What the account under a key lacks of the rent minimum for that many
bytes. -/
def Ledger.lacks (L : Ledger) (k : Key) (space : Nat) : ℤ :=
  max 0 ((Ledger.rentMinimum space).toNat - L.lamports k)

/-! The rent of the two kinds of record. -/

theorem Ledger.toNat_rentMinimum_pool :
    (rentMinimum Pool.record.size).toNat = 1809600 := by decide

theorem Ledger.toNat_rentMinimum_bet :
    (rentMinimum Bet.record.size).toNat = 1628640 := by decide

theorem Ledger.lamports_of_get {k : Key}
    (h : (M.get k).lamports = (L.get k).lamports) :
    M.lamports k = L.lamports k := congrArg (fun n : UInt64 => (n.toNat : ℤ)) h

theorem Ledger.ext_lamports_content (hslot : L.slot = M.slot)
    (hlamports : ∀ k, L.lamports k = M.lamports k)
    (hcontent : ∀ k, L.content k = M.content k) :
    L = M := by
  refine Ledger.ext_get hslot fun k => Account.ext_content ?_ (hcontent k)
  have h := hlamports k
  rw [lamports, lamports] at h
  exact UInt64.toNat_inj.1 (by omega)

/-- An account of the program that is as long as a record holds nothing else. -/
theorem Account.content_of_stored? {a : Account} {α : Type} {r : Record α}
    {y : α} (h : a.stored? r = some y) (hlength : a.data.length = r.size) :
    a.content = (Key.game, r.encode y) := by
  obtain ⟨howner, rest, hdata⟩ := Account.stored?_eq_some_iff.1 h
  rw [hdata, List.length_append, Record.length_encode, Nat.add_eq_left,
    List.length_eq_zero_iff] at hlength
  rw [hlength, List.append_nil] at hdata
  exact Prod.ext howner hdata

theorem Sound.content_of_pool? (hL : Sound S L) {P : Key}
    (h : L.pool? P = some p) :
    L.content P = (Key.game, Pool.record.encode p) :=
  Account.content_of_stored? h (hL.length_of_pool? h)

theorem Sound.content_of_bet? (hL : Sound S L) {B : Key}
    (h : L.bet? B = some b) :
    L.content B = (Key.game, Bet.record.encode b) :=
  Account.content_of_stored? h (hL.length_of_bet? h)

/-! ## Steps of one bet -/

/-- What is added where, if the player, the vault and the bet get this much. -/
def Seats.shift (x : Seats) (player vault bet : ℤ) (k : Key) : ℤ :=
  if k = x.player then player else if k = x.vault then vault
  else if k = x.bet then bet else 0

namespace Ledger.Steps

variable {purse vault : UInt64} {bet : Account}

theorem lamports (h : L.Steps S x p q bet) (hS : Apart S) {player bank held : ℤ}
    (hplayer : (purse.toNat : ℤ) = L.lamports x.player + player)
    (hbank : (vault.toNat : ℤ) = L.lamports x.vault + bank)
    (hheld : (bet.lamports.toNat : ℤ) = L.lamports x.bet + held) (k : Key) :
    (L.betStep x purse vault q bet).lamports k
      = L.lamports k + x.shift player bank held k := by
  rw [Seats.shift]
  by_cases hkp : k = x.player
  · rw [if_pos hkp, hkp, Ledger.lamports, h.get_player hS,
      Account.lamports_kept]
    exact hplayer
  by_cases hkv : k = x.vault
  · rw [if_neg hkp, if_pos hkv, hkv, Ledger.lamports, h.get_vault hS,
      Account.lamports_kept]
    exact hbank
  by_cases hkb : k = x.bet
  · rw [if_neg hkp, if_neg hkv, if_pos hkb, hkb, Ledger.lamports, h.get_bet hS]
    exact hheld
  rw [if_neg hkp, if_neg hkv, if_neg hkb, Int.add_zero]
  refine lamports_of_get ?_
  by_cases hpool : k = x.pool
  · rw [hpool, h.get_pool hS]
  · rw [L.get_betStep_of_ne (by simp [hkp, hkv]) hpool hkb]

/-- A step in which as much leaves as arrives keeps the total. -/
theorem total (h : L.Steps S x p q bet) (hS : Apart S)
    (hsum : purse.toNat + vault.toNat + bet.lamports.toNat
      = (L.get x.player).lamports.toNat
      + (L.get x.vault).lamports.toNat + (L.get x.bet).lamports.toNat) :
    (L.betStep x purse vault q bet).total = L.total := by
  obtain ⟨seed, hx⟩ := h.seats
  have hkeys : [x.player, x.vault, x.bet].Nodup := by
    simp [hx.player_ne_vault, hx.player_ne_bet, hx.vault_ne_bet hS]
  have hout :=
    Ledger.sum_of_outside (f := fun a => a.lamports.toNat) rfl (L := L)
      (M := L.betStep x purse vault q bet) hkeys fun k hk => by
        simp only [List.mem_cons, List.not_mem_nil, or_false, not_or] at hk
        obtain ⟨hplayer, hvault, hbet⟩ := hk
        by_cases hpool : k = x.pool
        · rw [hpool, h.get_pool hS]
        · rw [L.get_betStep_of_ne (by simp [hplayer, hvault]) hpool hbet]
  simp only [List.map_cons, List.map_nil, List.sum_cons, List.sum_nil,
    h.get_player hS, h.get_vault hS, h.get_bet hS,
    Account.lamports_kept] at hout
  exact Nat.add_right_cancel (m := (L.get x.player).lamports.toNat
    + (L.get x.vault).lamports.toNat + (L.get x.bet).lamports.toNat)
    (by rw [Ledger.total, Ledger.total]; omega)

end Ledger.Steps

/-- The ledger `M` is `L` after a step of one bet that has given the player, the
vault and the bet this much, and has left a pool `q` and this content of the
bet's account. -/
structure Ledger.BetMoves (L M : Ledger) (x : Seats) (player bank held : ℤ)
    (q : Pool) (left : Key × Bytes) : Prop where
  slot : M.slot = L.slot
  lamports : ∀ k, M.lamports k = L.lamports k + x.shift player bank held k
  pool : M.content x.pool = (Key.game, Pool.record.encode q)
  bet : M.content x.bet = left
  content : ∀ k, k ≠ x.pool → k ≠ x.bet → M.content k = L.content k

/-- A step that empties neither the vault nor a player who has something to lose
changes no content but that of the pool and of the bet. -/
theorem Ledger.Steps.moves {purse vault : UInt64} {bet : Account}
    (h : L.Steps S x p q bet) (hS : Apart S)
    (hpurse : purse ≠ 0 ∨ (L.get x.player).content = Account.plain)
    (hvault : vault ≠ 0) {player bank held : ℤ}
    (hplayer : (purse.toNat : ℤ) = L.lamports x.player + player)
    (hbank : (vault.toNat : ℤ) = L.lamports x.vault + bank)
    (hheld : (bet.lamports.toNat : ℤ) = L.lamports x.bet + held) :
    L.BetMoves (L.betStep x purse vault q bet) x
      player bank held q bet.content where
  slot := L.slot_setAll _
  lamports := h.lamports hS hplayer hbank hheld
  pool := by
    rw [Ledger.content, h.get_pool hS]
    exact Prod.ext h.owner_pool rfl
  bet := by rw [Ledger.content, h.get_bet hS]
  content k hpool hbet := by
    rw [Ledger.content, Ledger.content]
    by_cases hp : k = x.player
    · rw [hp, h.get_player hS, Account.content_kept_lamports hpurse]
    by_cases hv : k = x.vault
    · rw [hv, h.get_vault hS, Account.content_kept_lamports (.inl hvault)]
    · rw [L.get_betStep_of_ne (by simp [hp, hv]) hpool hbet]

/-! ## Placing -/

namespace Ledger.Stakes

variable {seed : Seed} {amount : UInt64} {roll bump : UInt8}

/-- The player pays the stake into the vault, and what the bet's account lacks
of its rent. -/
theorem moves (h : L.Stakes S c x seed amount roll bump p q M) (hS : Apart S) :
    L.BetMoves M x (-(amount.toNat + L.lacks x.bet Bet.record.size))
      amount.toNat (L.lacks x.bet Bet.record.size) q
      (Key.game, Bet.record.encode (x.bets seed L.slot roll amount bump)) := by
  obtain ⟨purse, vault, rent, hvault, hrent, hpurse, rfl⟩ := h.moved
  obtain ⟨hvalid, _⟩ := Pool.after_accept_eq_ok_iff.1 h.counted
  have hstake := (Game.validate_eq_ok_iff_toNat.1 hvalid).1
  refine (h.steps (hrent ▸ Nat.le_max_right _ _)).moves hS
    (.inr (Account.content_eq_plain_iff.2 h.payer))
    (Word.ne_zero_of_toNat_pos (by omega)) ?_ ?_ ?_
  · rw [Ledger.lacks, Ledger.lamports, Ledger.lamports]
    omega
  · rw [Ledger.lamports]
    omega
  · rw [Ledger.lacks, Ledger.lamports]
    show (rent.toNat : ℤ) = _
    omega

theorem total (h : L.Stakes S c x seed amount roll bump p q M) (hS : Apart S) :
    M.total = L.total := by
  obtain ⟨purse, vault, rent, hvault, hrent, hpurse, rfl⟩ := h.moved
  refine (h.steps (hrent ▸ Nat.le_max_right _ _)).total hS ?_
  show purse.toNat + vault.toNat + rent.toNat = _
  omega

end Ledger.Stakes

/-! ## Closing -/

namespace Ledger.Closes

variable {paid : UInt64}

/-- The vault pays, and the bet's account goes to the player as well. -/
theorem moves (hM : L.Closes x q paid M) (hS : Apart S) (hL : Sound S L)
    (h : L.Holds x b p) (hq : Pool.Releases b.amount p q)
    (hpaid : Call.rentFloor.toNat + p.lockedStakes.toNat + paid.toNat
      ≤ (L.get x.vault).lamports.toNat + b.amount.toNat) :
    L.BetMoves M x (paid.toNat + L.lamports x.bet) (-paid.toNat)
      (-L.lamports x.bet) q Account.plain := by
  obtain ⟨purse, vault, hvault, hpurse, rfl⟩ := hM
  have hcounted := (h.counted hL).2
  have hfloor : 0 < Call.rentFloor.toNat := by decide
  -- The bet's account held lamports, and they are now the player's.
  have hheld : (L.get x.bet).lamports ≠ 0 :=
    Ledger.lamports_ne_of_owner (Account.owner_of_stored? h.bet)
  have hpos : 0 < (L.get x.bet).lamports.toNat :=
    Nat.pos_of_ne_zero fun hzero => hheld (UInt64.toNat_inj.1 hzero)
  refine (h.steps hL hq).moves hS (.inl (Word.ne_zero_of_toNat_pos (by omega)))
    (Word.ne_zero_of_toNat_pos (by omega)) ?_ ?_ ?_
  · rw [Ledger.lamports, Ledger.lamports]
    omega
  · rw [Ledger.lamports]
    omega
  · show ((0 : UInt64).toNat : ℤ) = _
    rw [UInt64.toNat_zero]
    omega

theorem total (hM : L.Closes x q paid M) (hS : Apart S) (hL : Sound S L)
    (h : L.Holds x b p) (hq : Pool.Releases b.amount p q) :
    M.total = L.total := by
  obtain ⟨purse, vault, hvault, hpurse, rfl⟩ := hM
  refine (h.steps hL hq).total hS ?_
  show purse.toNat + vault.toNat + (0 : UInt64).toNat = _
  rw [UInt64.toNat_zero]
  omega

end Ledger.Closes

theorem Ledger.Resolves.moves {s : Signature} {t : Game.Settlement}
    (h : L.Resolves c x b p q s t M) (hS : Apart S) (hL : Sound S L) :
    L.BetMoves M x (t.payout.toNat + L.lamports x.bet) (-t.payout.toNat)
      (-L.lamports x.bet) q Account.plain := by
  have hbacked := (h.holds.goodPool hL).backed
  rw [h.holds.vault] at hbacked
  exact h.closes.moves hS hL h.holds (Pool.releases_of_settle h.counted)
    (Pool.covered_of_settle hbacked h.counted)

theorem Ledger.Refunds.moves (h : L.Refunds c x b p q M) (hS : Apart S)
    (hL : Sound S L) :
    L.BetMoves M x (b.amount.toNat + L.lamports x.bet) (-b.amount.toNat)
      (-L.lamports x.bet) q Account.plain := by
  have hbacked := (h.holds.goodPool hL).backed
  rw [h.holds.vault] at hbacked
  exact h.closes.moves hS hL h.holds (Pool.releases_of_refund h.counted)
    (by omega)

/-! ## Founding -/

/-- What is added where, if the house pays for a pool and a vault this much. -/
def Ledger.foundShift (house pool vault : Key) (rent bank : ℤ) (k : Key) : ℤ :=
  if k = house then -(rent + bank) else if k = pool then rent
  else if k = vault then bank else 0

namespace Ledger.Founds

variable {pool : Key} {amount : UInt64}

/-- The house pays what the two new accounts lack of their rent, and the first
funds. -/
theorem lamports (h : L.Founds S c pool p amount M) (hS : Apart S) (k : Key) :
    M.lamports k = L.lamports k + foundShift p.house pool p.vault
      (L.lacks pool Pool.record.size) (L.lacks p.vault 0 + amount.toNat) k := by
  have hnodup := h.nodup hS
  obtain ⟨purse, rent, funds, hrent, hfunds, hpurse, rfl⟩ := h.moved
  obtain ⟨hhouse, hpool, hvault⟩ := L.get_foundStep hnodup purse rent funds p
  have hfloor : (Ledger.rentMinimum 0).toNat = Call.rentFloor.toNat := rfl
  simp only [foundShift, Ledger.lacks, Ledger.lamports]
  by_cases hkh : k = p.house
  · rw [if_pos hkh, hkh, hhouse, Account.lamports_kept]
    show (purse.toNat : ℤ) = _
    omega
  by_cases hkp : k = pool
  · rw [if_neg hkh, if_pos hkp, hkp, hpool, Account.lamports_kept]
    show (rent.toNat : ℤ) = _
    omega
  by_cases hkv : k = p.vault
  · rw [if_neg hkh, if_neg hkp, if_pos hkv, hkv, hvault, Account.lamports_kept]
    show (funds.toNat : ℤ) = _
    omega
  · rw [if_neg hkh, if_neg hkp, if_neg hkv, Int.add_zero, Ledger.foundStep,
      Ledger.get_setAll_of_not_mem L (by simp [hkh, hkp, hkv])]

theorem total (h : L.Founds S c pool p amount M) (hS : Apart S) :
    M.total = L.total := by
  have hnodup := h.nodup hS
  obtain ⟨purse, rent, funds, hrent, hfunds, hpurse, rfl⟩ := h.moved
  obtain ⟨hhouse, hpool, hvault⟩ := L.get_foundStep hnodup purse rent funds p
  have hout :=
    Ledger.sum_of_outside (f := fun a => a.lamports.toNat) rfl (L := L)
      (M := L.foundStep p.house pool p.vault purse rent funds p) hnodup
      fun k hk => by
        rw [Ledger.foundStep, Ledger.get_setAll_of_not_mem L hk]
  simp only [List.map_cons, List.map_nil, List.sum_cons, List.sum_nil, hhouse,
    hpool, hvault, Account.lamports_kept] at hout
  rw [Ledger.total, Ledger.total]
  omega

theorem content_pool (h : L.Founds S c pool p amount M) (hS : Apart S) :
    M.content pool = (Key.game, Pool.record.encode p) := by
  obtain ⟨_, _, ⟨rent, hpool⟩, _⟩ := h.gets hS
  rw [Ledger.content, hpool]
  rfl

theorem content (h : L.Founds S c pool p amount M) (hS : Apart S) {k : Key}
    (hk : k ≠ pool) :
    M.content k = L.content k := by
  obtain ⟨_, ⟨purse, hhouse⟩, _, ⟨funds, hvault, _⟩, hother⟩ := h.gets hS
  rw [Ledger.content, Ledger.content]
  by_cases hkh : k = p.house
  · rw [hkh, hhouse,
      Account.content_kept_lamports
        (.inr (Account.content_eq_plain_iff.2 h.payer))]
  by_cases hkv : k = p.vault
  · rw [hkv, hvault]
    exact (Account.content_eq_plain_iff.2 h.vaultFree).symm
  · rw [hother k (by simp [hkh, hk, hkv])]

end Ledger.Founds

/-! ## Any call -/

/-- Whatever a call leaves under a key was there before, is the program's, or is
nothing but lamports. -/
theorem Ledger.Change.content_cases (hS : Apart S) (hL : Sound S L)
    {event : Event} (h : L.Change S c M event) (k : Key) :
    M.content k = L.content k ∨ (M.get k).owner = Key.game
      ∨ M.content k = Account.plain := by
  have hmoved :
    ∀ {x : Seats} {player bank held : ℤ} {q : Pool} {left : Key × Bytes},
      L.BetMoves M x player bank held q left →
        left.1 = Key.game ∨ left = Account.plain →
      M.content k = L.content k ∨ (M.get k).owner = Key.game
        ∨ M.content k = Account.plain := by
    intro x player bank held q left hmoves hleft
    by_cases hpool : k = x.pool
    · exact .inr (.inl (congrArg Prod.fst (hpool ▸ hmoves.pool)))
    by_cases hbet : k = x.bet
    · rw [← hmoves.bet, ← hbet] at hleft
      exact .inr hleft
    · exact .inl (hmoves.content k hpool hbet)
  cases h with
  | @founds pool p amount _ _ step =>
    by_cases hk : k = pool
    · exact .inr (.inl (congrArg Prod.fst (hk ▸ step.content_pool hS)))
    · exact .inl (step.content hS hk)
  | stakes _ step => exact hmoved (step.moves hS) (.inl rfl)
  | resolves _ step => exact hmoved (step.moves hS hL) (.inr rfl)
  | refunds _ step => exact hmoved (step.moves hS hL) (.inr rfl)

/-- No call makes or loses a lamport. -/
theorem Ledger.Change.total (hS : Apart S) (hL : Sound S L) {event : Event}
    (h : L.Change S c M event) : M.total = L.total := by
  cases h with
  | founds _ step => exact step.total hS
  | stakes _ step => exact step.total hS
  | resolves _ step =>
    exact step.closes.total hS hL step.holds
      (Pool.releases_of_settle step.counted)
  | refunds _ step =>
    exact step.closes.total hS hL step.holds
      (Pool.releases_of_refund step.counted)

end HouseDice
