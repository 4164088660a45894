import HouseDice.Proofs.Invisible
import HouseDice.Proofs.Outflow

/-!
# Gifts do no harm

Anybody may send lamports to any address: to a vault, to an open bet, or to the
address of a pool that is not there yet. Nobody can stop the program that way.
Two ledgers are compared that agree in everything but lamports, of which the
second has at least as many under every key. Whatever goes well in the first
goes well in the second, reports the same, and leaves two such ledgers.

An account that is opened asks only for what it lacks of its rent, so one that
holds lamports already is cheaper. What is spendable can only grow with the
vault, and the counters do not look at lamports at all. The one sum that a
larger vault makes larger is the one by which a win is covered; it fits because
the stake that is added is locked, and so left out of what is spendable.
-/

namespace HouseDice

open Address

variable {S : Set Purpose} {L L₁ M M₁ N : Ledger} {c : Call} {x : Seats}
  {b : Bet} {p q : Pool} {P : Key}

/-! ## Pools -/

namespace Pool

variable {lamports lamports' floor : UInt64}

/-- The more a vault holds, the more of it can be spent. -/
theorem spendable_mono (h : lamports ≤ lamports') :
    p.spendable lamports floor ≤ p.spendable lamports' floor := by
  rw [UInt64.le_iff_toNat_le] at h ⊢
  simp only [spendable, Game.available, Word.toNat_satSub]
  omega

/-- A bet that a pool accepts it accepts with more in its vault, and counts the
same. -/
theorem accept_mono (h : lamports ≤ lamports') {amount : UInt64} {roll : UInt8}
    (hq : p.after (accept lamports floor amount roll) = .ok ((), q)) :
    p.after (accept lamports' floor amount roll) = .ok ((), q) := by
  obtain ⟨hvalid, ⟨most, hmost, hcovered⟩, hcounted⟩ :=
    after_accept_eq_ok_iff.1 hq
  have hcovered' := UInt64.le_trans hcovered (spendable_mono h)
  exact after_accept_eq_ok_iff.2 ⟨hvalid, ⟨most, hmost, hcovered'⟩, hcounted⟩

/-- A settlement that a pool can pay it can pay with more in its vault. -/
theorem settle_mono (h : lamports ≤ lamports') {s : Signature}
    {t : Game.Settlement}
    (hq : p.after (settle lamports floor b s) = .ok (t, q)) :
    p.after (settle lamports' floor b s) = .ok (t, q) := by
  obtain ⟨hsettle, hcover, hcounted⟩ := after_settle_eq_ok_iff.1 hq
  refine after_settle_eq_ok_iff.2 ⟨hsettle, fun hwon => ?_, hcounted⟩
  obtain ⟨funds, hfunds, hle⟩ := hcover hwon
  obtain ⟨_, lockedStakes, _, _, hlocked, _⟩ := hcounted
  have hmore : p.spendable lamports floor ≤ p.spendable lamports' floor :=
    spendable_mono h
  -- What is spendable leaves out the locked stakes, and this one is among them.
  have hfits : (p.spendable lamports' floor).toNat + b.amount.toNat
      < UInt64.size := by
    have hlamports := lamports'.toNat_lt_size
    have hstake := b.amount.toNat_lt_size
    simp only [spendable, Game.available, Word.toNat_satSub]
    omega
  obtain ⟨funds', hfunds'⟩ := Word.exists_toNat_eq hfits
  rw [UInt64.le_iff_toNat_le] at hle hmore
  refine ⟨funds', hfunds', UInt64.le_iff_toNat_le.2 ?_⟩
  omega

end Pool

/-! ## Ledgers -/

/-- The ledger `M` is `L` with more lamports, under whatever keys. -/
structure Ledger.Richer (L M : Ledger) : Prop where
  slot : M.slot = L.slot
  content : ∀ k, M.content k = L.content k
  lamports : ∀ k, L.lamports k ≤ M.lamports k

namespace Ledger.Richer

theorem trans (h : L.Richer M) (h' : M.Richer N) : L.Richer N where
  slot := h'.slot.trans h.slot
  content k := (h'.content k).trans (h.content k)
  lamports k := Int.le_trans (h.lamports k) (h'.lamports k)

/-- A gift makes a ledger richer. -/
theorem give {k : Key} {amount : UInt64}
    (hfits : L.total + amount.toNat < UInt64.size) :
    L.Richer (L.give k amount) where
  slot := rfl
  content := content_give hfits
  lamports j := by
    rw [lamports_give hfits]
    split
    next => omega
    next => omega

variable (h : L.Richer M)

include h

theorem toNat_le (k : Key) :
    (L.get k).lamports.toNat ≤ (M.get k).lamports.toNat := by
  have hle := h.lamports k
  rw [Ledger.lamports, Ledger.lamports] at hle
  omega

theorem le (k : Key) : (L.get k).lamports ≤ (M.get k).lamports :=
  UInt64.le_iff_toNat_le.2 (h.toNat_le k)

theorem lacks_le (k : Key) (space : Nat) :
    M.lacks k space ≤ L.lacks k space := by
  have hle := h.lamports k
  rw [lacks, lacks]
  omega

theorem pool? (P : Key) : M.pool? P = L.pool? P :=
  Account.stored?_congr (h.content P) _

theorem bet? (B : Key) : M.bet? B = L.bet? B :=
  Account.stored?_congr (h.content B) _

theorem plain {k : Key}
    (hk : (L.get k).owner = Key.system ∧ (L.get k).data = []) :
    (M.get k).owner = Key.system ∧ (M.get k).data = [] :=
  Account.content_eq_plain_iff.1
    ((h.content k).trans (Account.content_eq_plain_iff.2 hk))

theorem holds (hL : L.Holds x b p) : M.Holds x b p where
  bet := (h.bet? x.bet).trans hL.bet
  pool := (h.pool? x.pool).trans hL.pool
  player := hL.player
  betPool := hL.betPool
  house := hL.house
  vault := hL.vault

/-- What the program believes of a ledger it may believe of a richer one. -/
theorem sound (hL : Sound S L) : Sound S M := by
  have howner : ∀ k, (M.get k).owner = (L.get k).owner :=
    fun k => congrArg Prod.fst (h.content k)
  have hdata : ∀ k, (M.get k).data = (L.get k).data :=
    fun k => congrArg Prod.snd (h.content k)
  refine hL.of_same (UInt64.le_of_eq h.slot.symm) (fun k hk => ?_) fun k _ => ?_
  · rw [← howner k]
    exact hk
  · exact ⟨h.le k, howner k, hdata k⟩

/-! ### The four calls -/

/-- Two steps of one bet that leave the same pool and the same bet leave one
ledger richer than the other, if none of the three accounts gets poorer. -/
theorem of_betMoves {player bank held player' bank' held' : ℤ}
    {written : Key × Bytes} (hleft : L.BetMoves L₁ x player bank held q written)
    (hright : M.BetMoves M₁ x player' bank' held' q written)
    (hplayer : L.lamports x.player + player ≤ M.lamports x.player + player')
    (hbank : L.lamports x.vault + bank ≤ M.lamports x.vault + bank')
    (hheld : L.lamports x.bet + held ≤ M.lamports x.bet + held') :
    L₁.Richer M₁ where
  slot := by rw [hright.slot, hleft.slot, h.slot]
  content k := by
    by_cases hpool : k = x.pool
    · rw [hpool, hright.pool, hleft.pool]
    by_cases hbet : k = x.bet
    · rw [hbet, hright.bet, hleft.bet]
    · rw [hright.content k hpool hbet, hleft.content k hpool hbet, h.content]
  lamports k := by
    rw [hleft.lamports, hright.lamports, Seats.shift, Seats.shift]
    have hle := h.lamports k
    split_ifs with hkp hkv hkb
    · rw [hkp]
      exact hplayer
    · rw [hkv]
      exact hbank
    · rw [hkb]
      exact hheld
    · omega

/-- Two openings of one pool leave one ledger richer than the other, because
whoever is given less lacks more, and the house pays no more than that. -/
theorem of_founds (hS : Apart S) {amount : UInt64}
    (hleft : L.Founds S c P p amount L₁) (hright : M.Founds S c P p amount M₁) :
    L₁.Richer M₁ where
  slot := by rw [(hleft.gets hS).1, (hright.gets hS).1, h.slot]
  content k := by
    by_cases hk : k = P
    · rw [hk, hleft.content_pool hS, hright.content_pool hS]
    · rw [hleft.content hS hk, hright.content hS hk, h.content]
  lamports k := by
    have hlacksPool := h.lacks_le P Pool.record.size
    have hlacksVault := h.lacks_le p.vault 0
    have hkey := h.lamports k
    have hpool := h.lamports P
    have hvault := h.lamports p.vault
    rw [hleft.lamports hS, hright.lamports hS, foundShift, foundShift]
    simp only [lacks] at hlacksPool hlacksVault ⊢
    split_ifs with hkh hkp hkv
    · omega
    · rw [hkp]
      omega
    · rw [hkv]
      omega
    · omega

theorem founds (hS : Apart S) (htotal : M.total < UInt64.size)
    (hlawful : c.Lawful S) {amount : UInt64}
    (hdecode : Request.decode c.data = .ok (.initializePool amount))
    (step : L.Founds S c P p amount L₁) :
    ∃ M₁, (M.run c).result = .ok (M₁, .poolInitialized P p.house p.vault amount)
      ∧ L₁.Richer M₁ := by
  obtain ⟨purse, rent, funds, hrent, hfunds, hpurse, _⟩ := step.moved
  have hhouse := h.toNat_le p.house
  have hpool := h.toNat_le P
  have hvault := h.toNat_le p.vault
  -- All that the call moves is in the three accounts, and so no more than there
  -- is.
  have hle := M.lamports_le_total (step.nodup hS)
  simp only [List.map_cons, List.map_nil, List.sum_cons, List.sum_nil] at hle
  have henough :
      max (M.get P).lamports.toNat
          (Ledger.rentMinimum Pool.record.size).toNat
        + max (M.get p.vault).lamports.toNat Call.rentFloor.toNat + amount.toNat
      ≤ (M.get p.house).lamports.toNat + (M.get P).lamports.toNat
        + (M.get p.vault).lamports.toNat := by omega
  obtain ⟨M₁, hstep, hrun⟩ :=
    Ledger.founds_of_free hS hlawful hdecode step.program step.named
      step.signed step.writes step.stands (h.plain step.payer)
      (h.plain step.poolFree)
      (h.plain step.vaultFree) (h.slot ▸ step.created) (by omega) henough
  exact ⟨M₁, hrun, h.of_founds hS step hstep⟩

theorem stakes (hS : Apart S) (hL : Sound S L) (htotal : M.total < UInt64.size)
    (hlawful : c.Lawful S) {seed : Seed} {amount : UInt64} {roll bump : UInt8}
    (hdecode : Request.decode c.data = .ok (.placeBet seed amount roll))
    (step : L.Stakes S c x seed amount roll bump p q L₁) :
    ∃ M₁, (M.run c).result
        = .ok (M₁, .betPlaced x.bet x.player x.pool seed amount roll L.slot)
      ∧ L₁.Richer M₁ := by
  obtain ⟨purse, vault, rent, hsum, hrent, hpurse, _⟩ := step.moved
  have hplayer := h.toNat_le x.player
  have hbet := h.toNat_le x.bet
  -- The stake comes from the player, who is not the vault.
  have hkeys : [x.player, x.vault].Nodup := by simp [step.stand.player_ne_vault]
  have hle := M.lamports_le_total hkeys
  simp only [List.map_cons, List.map_nil, List.sum_cons, List.sum_nil] at hle
  obtain ⟨M₁, hstep, hrun⟩ :=
    Ledger.stakes_of_accepted hS (h.sound hL) hlawful hdecode step.seated
      step.stand ((h.pool? x.pool).trans step.pool)
      step.house step.vault step.find
      (h.plain step.free) (h.plain step.payer)
      (Pool.accept_mono (h.le x.vault) step.counted)
      (by omega) (by omega)
  have hright := hstep.moves hS
  rw [h.slot] at hright
  refine ⟨M₁, by rw [hrun, h.slot],
    h.of_betMoves (step.moves hS) hright ?_ ?_ ?_⟩
  · have hlacks := h.lacks_le x.bet Bet.record.size
    have hle := h.lamports x.player
    omega
  · have hle := h.lamports x.vault
    omega
  · have hle := h.lamports x.bet
    rw [lacks, lacks]
    omega

/-- A bet is closed in a richer ledger with the same payment, and what its
account was given besides goes to the player. -/
theorem closes_moves {paid : UInt64}
    (hleft : L.BetMoves L₁ x (paid.toNat + L.lamports x.bet) (-paid.toNat)
      (-L.lamports x.bet) q Account.plain)
    (hright : M.BetMoves M₁ x (paid.toNat + M.lamports x.bet) (-paid.toNat)
      (-M.lamports x.bet) q Account.plain) : L₁.Richer M₁ := by
  have hplayer := h.lamports x.player
  have hvault := h.lamports x.vault
  have hbet := h.lamports x.bet
  exact h.of_betMoves hleft hright (by omega) (by omega) (by omega)

theorem resolves (hS : Apart S) (hL : Sound S L)
    (htotal : M.total < UInt64.size) {s : Signature} {t : Game.Settlement}
    (hdecode : Request.decode c.data = .ok (.resolveBet s))
    (step : L.Resolves c x b p q s t L₁) :
    ∃ M₁, (M.run c).result
        = .ok (M₁, .betResolved x.bet x.player b.roll t.outcome t.won t.payout)
      ∧ L₁.Richer M₁ := by
  have hM := h.sound hL
  obtain ⟨M₁, hstep, hrun⟩ :=
    (h.holds step.holds).resolves hS hM htotal step.seated hdecode
      step.vouched (Pool.settle_mono (h.le x.vault) step.counted)
  exact ⟨M₁, hrun, h.closes_moves (step.moves hS hL) (hstep.moves hS hM)⟩

theorem refunds (hS : Apart S) (hL : Sound S L) (htotal : M.total < UInt64.size)
    (hdecode : Request.decode c.data = .ok .refundBet)
    (step : L.Refunds c x b p q L₁) :
    ∃ M₁, (M.run c).result
      = .ok (M₁, .betRefunded x.bet x.player b.amount L.slot)
      ∧ L₁.Richer M₁ := by
  have hM := h.sound hL
  obtain ⟨M₁, hstep, hrun⟩ :=
    (h.holds step.holds).refunds hS hM htotal step.seated hdecode
      (h.slot ▸ step.counted)
  exact ⟨M₁, by rw [hrun, h.slot],
    h.closes_moves (step.moves hS hL) (hstep.moves hS hM)⟩

/-! ### What goes well goes well in a richer ledger -/

theorem call (hS : Apart S) (hL : Sound S L) (htotal : M.total < UInt64.size)
    (hlawful : c.Lawful S) {event : Event}
    (hrun : (L.run c).result = .ok (L₁, event)) :
    ∃ M₁, (M.run c).result = .ok (M₁, event) ∧ L₁.Richer M₁ := by
  cases change_of_run hS hL hlawful hrun with
  | founds decoded step => exact h.founds hS htotal hlawful decoded step
  | stakes decoded step => exact h.stakes hS hL htotal hlawful decoded step
  | resolves decoded step => exact h.resolves hS hL htotal decoded step
  | refunds decoded step => exact h.refunds hS hL htotal decoded step

end Ledger.Richer

/-! ## Runs -/

/-- What a move brings from outside. -/
def Move.given : Move → ℕ
  | .gift _ amount => amount.toNat
  | .call _ | .clock _ => 0

namespace Ledger.Richer

theorem move (h : L.Richer M) (hS : Apart S) (hL : L.Reachable S) {m : Move}
    (hlawful : m.Lawful S) (hfits : M.total + m.given < UInt64.size)
    {events : List Event} (hm : L.move? m = some (L₁, events)) :
    ∃ M₁, M.move? m = some (M₁, events) ∧ L₁.Richer M₁
      ∧ M₁.total = M.total + m.given := by
  have hsound := hL.sound hS
  cases m with
  | call c =>
    obtain ⟨event, hrun, rfl⟩ := move?_call_eq_some_iff.1 hm
    obtain ⟨M₁, hrun', h₁⟩ := h.call hS hsound hfits hlawful hrun
    have hM := h.sound hsound
    exact ⟨M₁, move?_call_eq_some_iff.2 ⟨event, hrun', rfl⟩, h₁,
      (change_of_run hS hM hlawful hrun').total hS hM⟩
  | clock slot =>
    obtain ⟨hslot, rfl, rfl⟩ := move?_clock_eq_some_iff.1 hm
    rw [← h.slot] at hslot
    exact ⟨M.atSlot slot, move?_clock_eq_some_iff.2 ⟨hslot, rfl, rfl⟩,
      ⟨rfl, h.content, h.lamports⟩, rfl⟩
  | gift k amount =>
    obtain ⟨hfits', rfl, rfl⟩ := move?_gift_eq_some_iff.1 hm
    refine ⟨M.give k amount, move?_gift_eq_some_iff.2 ⟨hfits, rfl, rfl⟩,
      ⟨h.slot, fun j => ?_, fun j => ?_⟩, total_give hfits⟩
    · rw [content_give hfits, content_give hfits', h.content]
    · have hle := h.lamports j
      rw [lamports_give hfits, lamports_give hfits']
      omega

theorem moves (h : L.Richer M) (hS : Apart S) (hL : L.Reachable S)
    {moves : List Move} (hlawful : ∀ m ∈ moves, m.Lawful S)
    (hfits : M.total + (moves.map Move.given).sum < UInt64.size)
    {events : List Event} (hmoves : L.moves? moves = some (L₁, events)) :
    ∃ M₁, M.moves? moves = some (M₁, events) ∧ L₁.Richer M₁ := by
  -- On the moves, with both ledgers free: each move leaves one richer than the
  -- other.
  induction moves generalizing L M events with
  | nil =>
    simp only [moves?, Option.some.injEq, Prod.mk.injEq] at hmoves
    obtain ⟨rfl, rfl⟩ := hmoves
    exact ⟨M, rfl, h⟩
  | cons m rest ih =>
    obtain ⟨L₂, first, more, hm, hrest, rfl⟩ := moves?_cons_eq_some_iff.1 hmoves
    rw [List.map_cons, List.sum_cons] at hfits
    obtain ⟨hlawfulM, hlawfulRest⟩ := List.forall_mem_cons.1 hlawful
    obtain ⟨M₂, hm', h₂, htotal⟩ := h.move hS hL hlawfulM (by omega) hm
    obtain ⟨M₁, hrest', h₁⟩ :=
      ih h₂ (hL.move hlawfulM hm) hlawfulRest (by omega) hrest
    exact ⟨M₁, moves?_cons_eq_some_iff.2 ⟨M₂, first, more, hm', hrest', rfl⟩,
      h₁⟩

end Ledger.Richer

/-- Lamports that are sent to the program's addresses, or to any other, stop
nothing: every call that goes well without them goes well with them, reports the
same event and leaves the same owner and data under every key; and so does every
sequence of calls, with the clock and more gifts in between, as long as all
lamports together can be counted. -/
theorem Ledger.Reachable.gifts_harmless (hS : Apart S) (hL : L.Reachable S)
    (h : L.Richer M) (htotal : M.total < UInt64.size) :
    (∀ c : Call, c.Lawful S → ∀ L₁ event, (L.run c).result = .ok (L₁, event) →
      ∃ M₁, (M.run c).result = .ok (M₁, event) ∧ L₁.Richer M₁)
    ∧ ∀ moves : List Move, (∀ m ∈ moves, m.Lawful S) →
      M.total + (moves.map Move.given).sum < UInt64.size →
      ∀ L₁ events, L.moves? moves = some (L₁, events) →
        ∃ M₁, M.moves? moves = some (M₁, events) ∧ L₁.Richer M₁ := by
  constructor
  · intro c hlawful L₁ event hrun
    exact h.call hS (hL.sound hS) htotal hlawful hrun
  · intro moves hlawful hfits L₁ events hmoves
    exact h.moves hS hL hlawful hfits hmoves

namespace Sample

/-- Before anything is opened somebody sends lamports to the pool, the vault and
the bet. -/
def showered : Ledger := ((start.give pool 1).give vault 2000000).give bet 5

/-- A pool is opened, a bet is placed and settled, and the vault is given more
in between. -/
def story : List Move :=
  [.call opening, .call betting, .gift vault 7, .call settling]

theorem start_richer : start.Richer showered :=
  ((Ledger.Richer.give (by decide +kernel)).trans
    (.give (by decide +kernel))).trans (.give (by decide +kernel))

theorem story_lawful : ∀ m ∈ story, m.Lawful (Known addresses) := by
  intro m hm
  simp only [story, List.mem_cons, List.not_mem_nil, or_false] at hm
  rcases hm with rfl | rfl | rfl | rfl
  · exact opening_lawful
  · exact betting_lawful
  · exact trivial
  · exact settling_lawful

end Sample

/-- The first run goes as well where somebody was there before. -/
theorem gifts_harmless_first_run : ∃ L₁ M₁ events, events.length = 3
    ∧ Sample.start.moves? Sample.story = some (L₁, events)
    ∧ Sample.showered.moves? Sample.story = some (M₁, events)
    ∧ L₁.Richer M₁ := by
  have hgoes : (Sample.start.moves? Sample.story).map (fun r => r.2.length)
      = some 3 := by
    decide +kernel
  obtain ⟨⟨L₁, events⟩, hmoves, hlength⟩ := Option.map_eq_some_iff.1 hgoes
  obtain ⟨_, hrun⟩ := Ledger.Reachable.gifts_harmless Sample.apart
    (Sample.start_untouched.reachable _) Sample.start_richer (by decide +kernel)
  obtain ⟨M₁, hmoves', hricher⟩ :=
    hrun Sample.story Sample.story_lawful (by decide +kernel) L₁
      events hmoves
  exact ⟨L₁, M₁, events, hlength, hmoves, hmoves', hricher⟩

end HouseDice
