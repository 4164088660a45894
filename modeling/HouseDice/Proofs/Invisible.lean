import HouseDice.Proofs.Aside

/-!
# A refunded bet leaves no trace

Between the placing of a bet and its refund others use the same pools, win and
lose, and lamports come from outside. If all of that goes well, it goes just as
well had the bet never been placed: the same calls succeed and report the same,
and in the end every account is the same. Only the pool remembers, by its totals
of what was wagered and of what was refunded.

The two runs are compared step by step. `Aside` says how they differ while the
bet is open; placing it begins that difference, whatever else happens keeps it,
and the refund ends it.
-/

namespace HouseDice

open Address

variable {S : Set Purpose} {L L₁ M M₁ N : Ledger} {c : Call} {x y : Seats}
  {b b' : Bet} {p q q₁ : Pool} {P B : Key}

/-! ## What others do -/

/-- What may go on while a bet is open. Unlike an action from outside, which
names the accounts that it leaves, a move can be made in two ledgers. -/
inductive Move where
  | call (c : Call)
  | clock (slot : UInt64)
  /-- Lamports come from outside. -/
  | gift (k : Key) (amount : UInt64)

/-- The chain lets it through. -/
def Move.Lawful (S : Set Purpose) : Move → Prop
  | .call c => c.Lawful S
  | .clock _ | .gift .. => True

/-- It is not about the bet under `B`. -/
def Move.Avoids (B : Key) : Move → Prop
  | .call c => c.deed? B = none
  | .clock _ => True
  | .gift k _ => k ≠ B

namespace Ledger

def give (L : Ledger) (k : Key) (amount : UInt64) : Ledger :=
  L.setLamports k ((L.get k).lamports + amount)

/-- The ledger after a move and what is reported, if the move goes well. -/
def move? (L : Ledger) : Move → Option (Ledger × List Event)
  | .call c => (L.run c).result.toOption.map fun r => (r.1, [r.2])
  | .clock slot => if L.slot ≤ slot then some (L.atSlot slot, []) else none
  | .gift k amount =>
    if L.total + amount.toNat < UInt64.size then some (L.give k amount, [])
    else none

/-- The ledger after some moves and all that is reported, if every move goes
well. -/
def moves? (L : Ledger) : List Move → Option (Ledger × List Event)
  | [] => some (L, [])
  | m :: rest => do
    let (M, events) ← L.move? m
    let (N, more) ← M.moves? rest
    return (N, events ++ more)

/-! ### Gifts -/

section

variable {k : Key} {amount : UInt64}
  (hfits : L.total + amount.toNat < UInt64.size)

include hfits

theorem toNat_give : ((L.get k).lamports + amount).toNat
    = (L.get k).lamports.toNat + amount.toNat := by
  have hkey : [k].Nodup := by simp
  have hle := L.lamports_le_total hkey
  simp only [List.map_cons, List.map_nil, List.sum_cons, List.sum_nil] at hle
  rw [UInt64.toNat_add, Nat.mod_eq_of_lt]
  exact Nat.lt_of_le_of_lt (by omega) hfits

theorem le_give : (L.get k).lamports ≤ (L.get k).lamports + amount := by
  rw [UInt64.le_iff_toNat_le, toNat_give hfits]
  exact Nat.le_add_right _ _

theorem lamports_give (j : Key) :
    (L.give k amount).lamports j
      = L.lamports j + if j = k then (amount.toNat : ℤ) else 0 := by
  have hsum := toNat_give (k := k) hfits
  rw [lamports, lamports, give, get_setLamports_of_le (le_give hfits)]
  split
  next hjk =>
    rw [hjk]
    show (((L.get k).lamports + amount).toNat : ℤ) = _
    omega
  next => rw [Int.add_zero]

theorem content_give (j : Key) : (L.give k amount).content j = L.content j := by
  rw [content, content, give, get_setLamports_of_le (le_give hfits)]
  split
  next hjk => rw [hjk]; rfl
  next => rfl

theorem total_give : (L.give k amount).total = L.total + amount.toNat := by
  have hset := sum_set (f := fun a => a.lamports.toNat) rfl L k
    { L.get k with lamports := (L.get k).lamports + amount }
  rw [Account.lamports_kept, toNat_give hfits] at hset
  rw [total, total, give, setLamports]
  omega

end

theorem sound_give (hL : Sound S L) {k : Key} {amount : UInt64}
    (hfits : L.total + amount.toNat < UInt64.size) :
    Sound S (L.give k amount) :=
  hL.outside (allows_gift S (le_give hfits))

/-! ### Moves that go well -/

theorem move?_call_eq_some_iff {events : List Event} :
    L.move? (.call c) = some (M, events)
      ↔ ∃ event, (L.run c).result = .ok (M, event) ∧ events = [event] := by
  simp only [move?, Option.map_eq_some_iff, toOption_eq_some_iff, Prod.exists,
    Prod.mk.injEq]
  constructor
  · rintro ⟨M, event, hrun, rfl, rfl⟩
    exact ⟨event, hrun, rfl⟩
  · rintro ⟨event, hrun, rfl⟩
    exact ⟨M, event, hrun, rfl, rfl⟩

theorem move?_clock_eq_some_iff {slot : UInt64} {events : List Event} :
    L.move? (.clock slot) = some (M, events)
      ↔ L.slot ≤ slot ∧ L.atSlot slot = M ∧ [] = events := by
  simp only [move?, Option.ite_none_right_eq_some, Option.some.injEq,
    Prod.mk.injEq]

theorem move?_gift_eq_some_iff {k : Key} {amount : UInt64}
    {events : List Event} :
    L.move? (.gift k amount) = some (M, events)
      ↔ L.total + amount.toNat < UInt64.size ∧ L.give k amount = M
        ∧ [] = events := by
  simp only [move?, Option.ite_none_right_eq_some, Option.some.injEq,
    Prod.mk.injEq]

/-- Moves are among the things that may happen. -/
theorem Reachable.move (hL : L.Reachable S) {m : Move} (hlawful : m.Lawful S)
    {events : List Event} (h : L.move? m = some (M, events)) :
    M.Reachable S := by
  cases m with
  | call c =>
    obtain ⟨event, hrun, _⟩ := move?_call_eq_some_iff.1 h
    have hafter : L.act (.call c) = M := by rw [act_call, after, hrun]
    exact hafter ▸ hL.step (a := .call c) hlawful
  | clock slot =>
    obtain ⟨hslot, rfl, _⟩ := move?_clock_eq_some_iff.1 h
    exact hL.step (a := .clock slot) hslot
  | gift k amount =>
    obtain ⟨hfits, rfl, _⟩ := move?_gift_eq_some_iff.1 h
    exact hL.step (a := .outside (L.give k amount).accounts)
      (allows_gift S (le_give hfits))

theorem moves?_cons_eq_some_iff {m : Move} {rest : List Move}
    {all : List Event} :
    L.moves? (m :: rest) = some (N, all) ↔ ∃ M events more,
      L.move? m = some (M, events)
      ∧ M.moves? rest = some (N, more) ∧ all = events ++ more := by
  simp only [moves?, bind, Option.bind_eq_some_iff, pure, Option.some.injEq,
    Prod.exists, Prod.mk.injEq]
  constructor
  · rintro ⟨M, events, hmove, N', more, hmoves, rfl, rfl⟩
    exact ⟨M, events, more, hmove, hmoves, rfl⟩
  · rintro ⟨M, events, more, hmove, hmoves, rfl⟩
    exact ⟨M, events, hmove, N, more, hmoves, rfl, rfl⟩

/-! ## What others do goes as well -/

namespace Aside

theorem call (h : Aside S y b L M) (hS : Apart S) (hlawful : c.Lawful S)
    (havoids : c.deed? y.bet = none) {event : Event}
    (hrun : (M.run c).result = .ok (M₁, event)) :
    ∃ L₁, (L.run c).result = .ok (L₁, event) ∧ Aside S y b L₁ M₁ := by
  have hother : ∀ {r : Request} {x : Seats}, Request.decode c.data = .ok r →
    c.Seated r.kind x →
      r.kind ≠ .initializePool → x.bet ≠ y.bet := by
    intro r x hdecode hseated hkind hbet
    rw [Call.deed?_of_seated hdecode hseated hkind, if_pos hbet] at havoids
    cases havoids
  cases change_of_run hS h.right hlawful hrun with
  | founds decoded step => exact h.founds hS hlawful decoded step
  | stakes decoded step =>
    exact h.stakes hS hlawful decoded step
      (hother decoded step.seated (by simp [Request.kind]))
  | resolves decoded step =>
    exact h.resolves hS decoded step
      (hother decoded step.seated (by simp [Request.kind]))
  | refunds decoded step =>
    exact h.refunds hS decoded step
      (hother decoded step.seated (by simp [Request.kind]))

theorem atSlot (h : Aside S y b L M) {slot : UInt64} (hslot : L.slot ≤ slot) :
    Aside S y b (L.atSlot slot) (M.atSlot slot) :=
  h.of_shift (f := fun _ => 0) (h.left.atSlot hslot)
    (h.right.atSlot (h.slot ▸ hslot)) h.total
    rfl (fun _ => (Int.add_zero _).symm) (fun _ => (Int.add_zero _).symm) rfl
    h.content h.pool rfl rfl

theorem give (h : Aside S y b L M) (hS : Apart S) {k : Key} {amount : UInt64}
    (hk : k ≠ y.bet) (hfits : M.total + amount.toNat < UInt64.size) :
    L.total + amount.toNat < UInt64.size
      ∧ Aside S y b (L.give k amount) (M.give k amount) := by
  have hfits' : L.total + amount.toNat < UInt64.size := h.total_eq hS ▸ hfits
  refine ⟨hfits',
    h.of_shift (sound_give h.left hfits') (sound_give h.right hfits)
    (by rw [total_give hfits']; exact hfits') h.slot (lamports_give hfits')
    (lamports_give hfits)
    (if_neg hk.symm) (fun j hpool hbet => ?_) ?_ (content_give hfits' _)
    (content_give hfits _)⟩
  · rw [content_give hfits, content_give hfits', h.content j hpool hbet]
  · rw [content_give hfits, content_give hfits']
    exact h.pool

/-- A move that goes well beside the bet goes well without it, reports the same
and keeps the difference. -/
theorem move (h : Aside S y b L M) (hS : Apart S) {m : Move}
    (hlawful : m.Lawful S) (havoids : m.Avoids y.bet) {events : List Event}
    (hM : M.move? m = some (M₁, events)) :
    ∃ L₁, L.move? m = some (L₁, events) ∧ Aside S y b L₁ M₁ := by
  cases m with
  | call c =>
    obtain ⟨event, hrun, rfl⟩ := move?_call_eq_some_iff.1 hM
    obtain ⟨L₁, hrun', h₁⟩ := h.call hS hlawful havoids hrun
    exact ⟨L₁, move?_call_eq_some_iff.2 ⟨event, hrun', rfl⟩, h₁⟩
  | clock slot =>
    obtain ⟨hslot, rfl, rfl⟩ := move?_clock_eq_some_iff.1 hM
    rw [h.slot] at hslot
    exact ⟨L.atSlot slot, move?_clock_eq_some_iff.2 ⟨hslot, rfl, rfl⟩,
      h.atSlot hslot⟩
  | gift k amount =>
    obtain ⟨hfits, rfl, rfl⟩ := move?_gift_eq_some_iff.1 hM
    obtain ⟨hfits', h₁⟩ := h.give hS havoids hfits
    exact ⟨L.give k amount, move?_gift_eq_some_iff.2 ⟨hfits', rfl, rfl⟩, h₁⟩

theorem moves (h : Aside S y b L M) (hS : Apart S) {moves : List Move}
    (hmoves : ∀ m ∈ moves, m.Lawful S ∧ m.Avoids y.bet) {events : List Event}
    (hM : M.moves? moves = some (M₁, events)) :
    ∃ L₁, L.moves? moves = some (L₁, events) ∧ Aside S y b L₁ M₁ := by
  -- On the moves, with both ledgers free: each move leaves two that differ in
  -- the same way.
  induction moves generalizing L M events with
  | nil =>
    simp only [moves?, Option.some.injEq, Prod.mk.injEq] at hM
    obtain ⟨rfl, rfl⟩ := hM
    exact ⟨L, rfl, h⟩
  | cons m rest ih =>
    obtain ⟨M₂, first, more, hmove, hrest, rfl⟩ := moves?_cons_eq_some_iff.1 hM
    obtain ⟨hlawful, havoids⟩ := hmoves m (List.mem_cons_self ..)
    obtain ⟨L₂, hmove', h₂⟩ := h.move hS hlawful havoids hmove
    obtain ⟨L₁, hrest', h₁⟩ :=
      ih h₂ (fun m hm => hmoves m (List.mem_cons_of_mem _ hm)) hrest
    exact ⟨L₁, moves?_cons_eq_some_iff.2 ⟨L₂, first, more, hmove', hrest', rfl⟩,
      h₁⟩

end Aside

/-! ## The beginning and the end -/

/-- Placing a bet where nothing was begins the difference. -/
theorem Stakes.aside (hS : Apart S) (hL : Sound S L)
    (htotal : L.total < UInt64.size) {seed : Seed} {amount : UInt64}
    {roll bump : UInt8} (h : L.Stakes S c x seed amount roll bump p q M)
    (hempty : (L.get x.bet).lamports = 0) :
    Aside S x (x.bets seed L.slot roll amount bump) L M := by
  have hzero : L.lamports x.bet = 0 := by
    rw [lamports, hempty]
    rfl
  have hlacks : L.lacks x.bet Bet.record.size = Bet.rent := by
    rw [lacks, hzero, Bet.rent]
    omega
  have hmoves := h.moves hS
  rw [hlacks] at hmoves
  obtain ⟨_, _, openBets, lockedStakes, totalWagered, hopen, hlocked, hwagered,
    rfl⟩ := Pool.after_accept_eq_ok_iff.1 h.counted
  exact {
    left := hL
    right := h.sound hS hL
    total := htotal
    stand := h.stand
    slot := hmoves.slot
    lamports := hmoves.lamports
    content := hmoves.content
    pool := ⟨p, _, hL.content_of_pool? h.pool, hmoves.pool, hopen, hlocked,
      hwagered, rfl⟩
    free := ⟨Account.content_eq_plain_iff.2 h.free, hzero⟩
    bet := hmoves.bet }

end Ledger

/-- A pool that counts a bet more and refunds it differs in the two totals. -/
theorem Pool.Plus.refunded (h : Plus 1 b.amount.toNat p q) {slot owed : UInt64}
    (hq : q.after (Pool.refund b slot) = .ok (owed, q₁)) :
    ∃ totalWagered totalRefunded : UInt64,
      totalWagered.toNat = p.totalWagered.toNat + b.amount.toNat
        ∧ totalRefunded.toNat = p.totalRefunded.toNat + b.amount.toNat
        ∧ q₁ = { p with totalWagered, totalRefunded } := by
  obtain ⟨_, _, openBets, lockedStakes, totalRefunded, hopen, hlocked,
    hrefunded, rfl⟩ := Pool.after_refund_eq_ok_iff.1 hq
  rw [h.openBets] at hopen
  rw [h.lockedStakes] at hlocked
  have hopenSame : openBets = p.openBets := UInt64.toNat_inj.1 (by omega)
  have hlockedSame : lockedStakes = p.lockedStakes :=
    UInt64.toNat_inj.1 (by omega)
  refine ⟨q.totalWagered, totalRefunded, h.totalWagered, ?_, ?_⟩
  · rw [hrefunded, h.totalRefunded]
  · rw [h.rest, hopenSame, hlockedSame]

namespace Ledger

theorem get_set_pool (hP : L.pool? P = some p) (q : Pool) (k : Key) :
    (L.set P { L.get P with data := Pool.record.encode q }).get k
      = if k = P then { L.get P with data := Pool.record.encode q }
        else L.get k := by
  have hne :
      { L.get P with data := Pool.record.encode q : Account }.lamports ≠ 0 :=
    lamports_ne_of_owner (Account.owner_of_stored? hP)
  rw [get_set, Account.kept_of_lamports_ne hne]

theorem lamports_set_pool (hP : L.pool? P = some p) (q : Pool) (k : Key) :
    (L.set P { L.get P with data := Pool.record.encode q }).lamports k
      = L.lamports k := by
  refine lamports_of_get ?_
  rw [get_set_pool hP]
  split
  next hk => rw [hk]
  next => rfl

theorem content_set_pool (hP : L.pool? P = some p) (q : Pool) (k : Key) :
    (L.set P { L.get P with data := Pool.record.encode q }).content k
      = if k = P then (Key.game, Pool.record.encode q) else L.content k := by
  rw [content, get_set_pool hP]
  split
  next => exact Prod.ext (Account.owner_of_stored? hP) rfl
  next => rfl

/-- The refund ends the difference, and the pool alone remembers. -/
theorem Aside.refunded (h : Aside S y b L M) (hS : Apart S)
    (step : M.Refunds c y b q q₁ N) :
    ∃ (p : Pool) (totalWagered totalRefunded : UInt64), L.pool? y.pool = some p
      ∧ totalWagered.toNat = p.totalWagered.toNat + b.amount.toNat
      ∧ totalRefunded.toNat = p.totalRefunded.toNat + b.amount.toNat
      ∧ N = L.set y.pool { L.get y.pool with
        data := Pool.record.encode
          { p with totalWagered, totalRefunded } } := by
  obtain ⟨p, hp, hplus⟩ := h.pool? step.holds.pool
  rw [if_pos rfl, if_pos rfl] at hplus
  obtain ⟨totalWagered, totalRefunded, hwagered, hrefunded, rfl⟩ :=
    hplus.refunded step.counted
  refine ⟨p, totalWagered, totalRefunded, hp, hwagered, hrefunded, ?_⟩
  have hmoves := step.moves hS h.right
  rw [h.lamports_bet hS] at hmoves
  refine ext_lamports_content ?_ (fun k => ?_) fun k => ?_
  · rw [hmoves.slot, h.slot]
    rfl
  · rw [lamports_set_pool hp, hmoves.lamports, h.lamports]
    simp only [Seats.shift]
    split_ifs <;> omega
  · rw [content_set_pool hp]
    split
    next hk => rw [hk, hmoves.pool]
    next hk =>
      by_cases hbet : k = y.bet
      · rw [hbet, hmoves.bet, h.free.1]
      · rw [hmoves.content k hk hbet, h.content k hk hbet]

end Ledger

/-! ## The whole story -/

/-- If a bet is placed at an address that holds nothing, others do what they
like, and the bet is refunded, then what the others do goes just as well without
it, and reports the same. In the end all is the same, but for the pool's totals
of wagers and of refunds, which are larger by the stake of the bet. -/
theorem Ledger.Reachable.refund_invisible (hS : Apart S) (hL : L.Reachable S)
    (htotal : L.total < UInt64.size) (hempty : (L.get B).lamports = 0)
    {placing refunding : Call} (hplacing : placing.Lawful S)
    (hplace : placing.deed? B = some .placeBet) {placed : Event}
    (hplaced : (L.run placing).result = .ok (M, placed)) {moves : List Move}
    (hmoves : ∀ m ∈ moves, m.Lawful S ∧ m.Avoids B) {events : List Event}
    (hgoes : M.moves? moves = some (M₁, events))
    (hrefunding : refunding.Lawful S)
    (hrefund : refunding.deed? B = some .refundBet) {refunded : Event}
    (hrefunded : (M₁.run refunding).result = .ok (N, refunded)) :
    ∃ (b : Bet) (p : Pool) (L₁ : Ledger) (totalWagered totalRefunded : UInt64),
      M.bet? B = some b ∧ L.moves? moves = some (L₁, events)
        ∧ L₁.pool? b.pool = some p
        ∧ totalWagered.toNat = p.totalWagered.toNat + b.amount.toNat
        ∧ totalRefunded.toNat = p.totalRefunded.toNat + b.amount.toNat
        ∧ N = L₁.set b.pool { L₁.get b.pool with
          data := Pool.record.encode
            { p with totalWagered, totalRefunded } } := by
  have hsound := hL.sound hS
  obtain ⟨y, seed, amount, roll, bump, p₀, q₀, hstakes, rfl⟩ :=
    (change_of_run hS hsound hplacing hplaced).stakes_of_deed hplace
  have hbegin := hstakes.aside hS hsound htotal hempty
  obtain ⟨L₁, hgoes', hend⟩ := hbegin.moves hS hmoves hgoes
  obtain ⟨x, b, q, q₁, hrefunds, hbet⟩ :=
    (change_of_run hS hend.right hrefunding hrefunded).refunds_of_deed hrefund
  -- What is refunded is what was placed, and to the player who placed it.
  have hopen := hbet ▸ hrefunds.holds.bet
  rw [bet?_of_content hend.bet, Option.some.injEq] at hopen
  subst hopen
  have hseats : x = y :=
    (hrefunds.holds.stand hend.right).eq_of_bet hS hend.stand hbet
      hrefunds.holds.player.symm
  subst hseats
  obtain ⟨p, totalWagered, totalRefunded, hp, hwagered, hrefundedTotal, hN⟩ :=
    hend.refunded hS hrefunds
  exact ⟨_, p, L₁, totalWagered, totalRefunded, bet?_of_content hbegin.bet,
    hgoes', hp, hwagered, hrefundedTotal, hN⟩

namespace Sample

/-- Where a second bet against the same vault stands. -/
def second : Key :=
  ⟨[0xe3, 0x56, 0x7d, 0x2b, 0x77, 0x94, 0x2d, 0x8c, 0xcf, 0x32, 0x4f, 0x53,
    0xe0, 0x99, 0x0c, 0x4a, 0x23, 0xf3, 0xe1, 0xd0, 0x3b, 0x96, 0x86, 0xba,
    0xd3, 0x41, 0x6d, 0xec, 0x3c, 0x3d, 0xf7, 0xc0],
   rfl⟩

def moreAddresses : List (Purpose × Key) := (.bet vault 1, second) :: addresses

/-- The second bet. -/
def besides : Call where
  program := Key.game
  accounts :=
    Call.accountsFor .placeBet ({ seats with bet := second } : Seats).key
  data := (Request.placeBet 1 2000000 30).encode
  before := []
  index := 0

/-- Somebody sends the vault seven lamports, the second bet is placed, and time
goes by. -/
def meanwhile : List Move := [.gift vault 7, .call besides, .clock 1005]

theorem find?_moreAddresses :
    ∀ e ∈ moreAddresses, (find? e.1).map Prod.fst = some e.2 :=
  List.forall_mem_cons.2 ⟨by decide +kernel, find?_addresses⟩

theorem more_apart : Apart (Known moreAddresses) :=
  apart_known find?_moreAddresses (by decide +kernel)

theorem opened_reachable : opened.Reachable (Known moreAddresses) :=
  (start_untouched.reachable _).step (a := .call opening)
    (Call.lawful_known find?_moreAddresses (by decide +kernel)
      (by decide +kernel))

theorem meanwhile_allowed :
    ∀ m ∈ meanwhile, m.Lawful (Known moreAddresses) ∧ m.Avoids bet := by
  have hlawful : besides.Lawful (Known moreAddresses) :=
    Call.lawful_known find?_moreAddresses (by decide +kernel)
      (by decide +kernel)
  have havoids : besides.deed? bet = none := by decide +kernel
  have hother : vault ≠ bet := by decide +kernel
  intro m hm
  simp only [meanwhile, List.mem_cons, List.not_mem_nil, or_false] at hm
  rcases hm with rfl | rfl | rfl
  · exact ⟨trivial, hother⟩
  · exact ⟨hlawful, havoids⟩
  · exact ⟨trivial, trivial⟩

end Sample

/-- The first bet is taken back, and the second is not aware of it. -/
theorem refund_invisible_first_run :
    ∃ (M M₁ N L₁ : Ledger) (placed refunded : Event) (events : List Event),
    (Sample.opened.run Sample.betting).result = .ok (M, placed)
      ∧ M.moves? Sample.meanwhile = some (M₁, events)
      ∧ (M₁.run (Sample.call .refundBet)).result = .ok (N, refunded)
      ∧ Sample.opened.moves? Sample.meanwhile = some (L₁, events)
      ∧ N = L₁.set Sample.pool { L₁.get Sample.pool with
        data := Pool.record.encode ⟨Sample.house, 255, Sample.vault, 255, 5,
          100000000, 1, 2000000, 3000000, 0, 1000000, 1⟩ } := by
  -- What happens with the bet, and the two records that the theorem leaves
  -- open.
  have hstory : (do
      let (M, _) ← (Sample.opened.run Sample.betting).result.toOption
      let (M₁, _) ← M.moves? Sample.meanwhile
      let _ ← (M₁.run (Sample.call .refundBet)).result.toOption
      M.bet? Sample.bet)
        = some ⟨Sample.player, Sample.pool, 0, 5, 50, 1000000, 255⟩ := by
    decide +kernel
  have hpool : (do
      let (L₁, _) ← Sample.opened.moves? Sample.meanwhile
      L₁.pool? Sample.pool)
        = some ⟨Sample.house, 255, Sample.vault, 255, 5, 100000000, 1, 2000000,
          2000000, 0, 0, 1⟩ := by
    decide +kernel
  simp only [bind, Option.bind_eq_some_iff, toOption_eq_some_iff,
    Prod.exists] at hstory hpool
  obtain ⟨M, placed, hplaced, M₁, events, hgoes, N, refunded, hrefunded,
    hbet⟩ := hstory
  obtain ⟨L₁, _, hmoves, hp⟩ := hpool
  have htotal : Sample.opened.total < UInt64.size := by decide +kernel
  have hempty : (Sample.opened.get Sample.bet).lamports = 0 := by decide +kernel
  have hbetting : Sample.betting.Lawful (Known Sample.moreAddresses) :=
    Call.lawful_known Sample.find?_moreAddresses (by decide +kernel)
      (by decide +kernel)
  have hrefunding : (Sample.call .refundBet).Lawful
      (Known Sample.moreAddresses) :=
    Call.lawful_known Sample.find?_moreAddresses (by decide +kernel)
      (by decide +kernel)
  obtain ⟨b, p, L₂, totalWagered, totalRefunded, hb, hgoes', hpool, hwagered,
    hrefundedTotal, hN⟩ :=
    Ledger.Reachable.refund_invisible
      Sample.more_apart Sample.opened_reachable htotal hempty
      hbetting (by decide +kernel) hplaced Sample.meanwhile_allowed hgoes
      hrefunding (by decide +kernel) hrefunded
  cases hb.symm.trans hbet
  cases hgoes'.symm.trans hmoves
  cases hpool.symm.trans hp
  have hwagered : totalWagered = 3000000 := UInt64.toNat_inj.1 hwagered
  have hrefundedTotal : totalRefunded = 1000000 :=
    UInt64.toNat_inj.1 hrefundedTotal
  subst hwagered hrefundedTotal
  exact ⟨M, M₁, N, L₁, placed, refunded, events, hplaced, hgoes, hrefunded,
    hgoes', hN⟩

end HouseDice
