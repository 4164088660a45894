import HouseDice.Proofs.Alternation
import HouseDice.Proofs.Binding

/-!
# When a message comes back

An address is free again once its bet is closed, and the next bet there may be
placed under the same seed. What keeps the two messages apart is the slot. A
refund takes a thousand of them, so it never lets a message come back before the
clock has stopped for good. A settlement takes none: a player who places, in the
slot of a bet that is settled, the very same bet again gets the very same
message, and what the house signed for the first one settles the second one too.
That is all that can happen, and seeds are the player's to choose.
-/

namespace HouseDice

open Address

variable {S : Set Purpose} {L : Ledger} {c c' : Call} {H B B' : Key}
  {b b' : Bet}

/-- The call places the bet `b` against the house `H`, under the key `B`. -/
structure Ledger.Places (L : Ledger) (c : Call) (H B : Key)
    (b : Bet) : Prop where
  asked : c.deed? B = some .placeBet
  house : c.key? 1 = some H
  succeeds : ∃ r, (L.run c).result = .ok r
  stored : (L.after c).bet? B = some b

theorem Sound.stakes_of_places (hS : Apart S) (hL : Sound S L) (hc : c.Lawful S)
    (h : L.Places c H B b) : ∃ x seed amount roll bump p q,
      L.Stakes S c x seed amount roll bump p q (L.after c)
        ∧ x.house = H ∧ x.bet = B
        ∧ b = x.bets seed L.slot roll amount bump := by
  obtain ⟨⟨M, event⟩, hrun⟩ := h.succeeds
  have hafter : L.after c = M := by rw [Ledger.after, hrun]
  obtain ⟨x, seed, amount, roll, bump, p, q, hstakes, hbet⟩ :=
    (Ledger.change_of_run hS hL hc hrun).stakes_of_deed h.asked
  rw [← hafter] at hstakes
  have hhouse : c.key? 1 = some x.house :=
    hstakes.seated.named (⟨.house, false, false⟩, 1) (by simp [Call.places])
  have hstored := hstakes.bet?_bet hS
  rw [hbet, h.stored, Option.some.injEq] at hstored
  exact ⟨x, seed, amount, roll, bump, p, q, hstakes,
    Option.some.inj (hhouse.symm.trans h.house), hbet, hstored⟩

/-- In every run, of two bets that were placed against one house each has a
message of its own, and no instruction vouches for both; or they are the same
bet at the same address, placed twice in one slot, and in between the house has
settled it, unless it was refunded in the last slot of all. -/
theorem Ledger.Untouched.message_distinct_or_repeated (hS : Apart S)
    {L₀ : Ledger} (hL₀ : L₀.Untouched) {before between after : List Action}
    (hrun : L₀.AllowsAll S (before ++ .call c
      :: (between ++ .call c' :: after)))
    (hplaces : (L₀.play before).Places c H B b)
    (hplaces' : (((L₀.play before).after c).play between).Places c' H B' b') :
    (b.message ≠ b'.message ∧ ∀ i s s',
      Ed25519.vouch i ⟨H, b.message, s⟩ = .ok () →
        Ed25519.vouch i ⟨H, b'.message, s'⟩ ≠ .ok ())
      ∨ B = B' ∧ b = b'
        ∧ (L₀.play before).slot = (((L₀.play before).after c).play between).slot
        ∧ (.resolveBet ∈ ((L₀.play before).after c).collect (deeds B) between
          ∨ .refundBet ∈ ((L₀.play before).after c).collect (deeds B) between
            ∧ b.slot.toNat = UInt64.size - 1) := by
  obtain ⟨hbefore, hc, hrest⟩ := allowsAll_append.1 hrun
  obtain ⟨hbetween, hc', _⟩ := allowsAll_append.1 hrest
  have hL := hbefore.sound hS hL₀
  have hM := hL.after hS hc
  have hL' : Sound S (((L₀.play before).after c).play between) :=
    hM.play hS hbetween
  by_cases hmessage : b.message = b'.message
  · right
    obtain ⟨x, seed, amount, roll, bump, p, q, hstakes, hhouse, hbet, hb⟩ :=
      hL.stakes_of_places hS hc hplaces
    obtain ⟨y, seed', amount', roll', bump', p', q', hstakes', hhouse', hbet',
      hb'⟩ := hL'.stakes_of_places hS hc' hplaces'
    have hwager := Bet.message_inj.1 hmessage
    rw [hb, hb'] at hwager
    simp only [Bet.wager, Seats.bets, Wager.mk.injEq] at hwager
    obtain ⟨hplayer, rfl, hslot, rfl, rfl⟩ := hwager
    have hsame : x.bet = y.bet :=
      hstakes.stand.bet_eq hstakes'.stand (hhouse.trans hhouse'.symm)
    have hseats : x = y :=
      hstakes.stand.eq_of_bet hS hstakes'.stand hsame hplayer
    have hbump : bump = bump' := by
      have hfind := hstakes.find
      rw [hseats, hstakes'.find, Option.some.injEq, Prod.mk.injEq] at hfind
      exact hfind.2.symm
    have hslots : b.slot = (((L₀.play before).after c).play between).slot := by
      rw [hb]
      exact hslot
    refine ⟨hbet.symm.trans (hsame.trans hbet'), ?_, hslot, ?_⟩
    · rw [hb, hb', hseats, hslot, hbump]
    -- The second bet was placed where nothing stood, so the first one has gone.
    have hgone : (((L₀.play before).after c).play between).bet? B ≠ some b := by
      have hfree :
          (((L₀.play before).after c).play between).bet? y.bet = none :=
        hstakes'.blank Bet.record
      rw [← hbet, hsame, hfree]
      simp
    rcases hM.closed_of_gone hS hbetween hplaces.stored hgone with hsettled
      | ⟨hrefunded, htime⟩
    · exact .inl hsettled
    · rw [← hslots] at htime
      have hfits := b.slot.toNat_lt_size
      exact .inr ⟨hrefunded, by omega⟩
  · left
    refine ⟨hmessage, ?_⟩
    intro i s s' hvouch hvouch'
    exact hmessage (congrArg Ed25519.Check.message
      (Ed25519.vouch_unique hvouch hvouch'))

namespace Sample

/-- The ledger after the house has settled the bet of the first run. -/
def paid : Ledger := ledger.after settling

/-- The bet of the first run can be placed again at once or in the next slot,
and what the house has signed settles it a second time if it is placed at
once. -/
theorem placed_again :
    ((start.after opening).run betting).result.toOption.isSome
      ∧ (ledger.run settling).result.toOption.isSome
      ∧ (paid.run betting).result.toOption.isSome
      ∧ (paid.after betting).bet? bet
        = some ⟨player, pool, 0, 5, 50, 1000000, 255⟩
      ∧ ((paid.after betting).run settling).result.toOption.isSome
      ∧ ((paid.atSlot 6).run betting).result.toOption.isSome
      ∧ ((paid.atSlot 6).after betting).bet? bet
        = some ⟨player, pool, 0, 6, 50, 1000000, 255⟩ := by
  decide +kernel

theorem betting_deed : betting.deed? bet = some .placeBet := by decide +kernel

/-- The bet is placed a first time, and a second time after the house has
settled it. -/
theorem places_first : (start.play [.call opening]).Places betting house bet
    ⟨player, pool, 0, 5, 50, 1000000, 255⟩ := by
  obtain ⟨r, hr⟩ := Option.isSome_iff_exists.1 placed_again.1
  have hstored := stored.2.1
  rw [ledger] at hstored
  rw [Ledger.play_cons, Ledger.play_nil, Ledger.act_call]
  exact ⟨betting_deed, rfl, ⟨r, toOption_eq_some_iff.1 hr⟩, hstored⟩

theorem play_settling (more : List Action) :
    ((start.play [.call opening]).after betting).play (.call settling :: more)
      = paid.play more := by
  rw [Ledger.play_cons, Ledger.act_call, Ledger.play_cons, Ledger.act_call,
    Ledger.play_nil, paid, ledger]

theorem places_second :
    (((start.play [.call opening]).after betting).play [.call settling]).Places
    betting house bet ⟨player, pool, 0, 5, 50, 1000000, 255⟩ := by
  obtain ⟨_, _, hplaces, hstored, _⟩ := placed_again
  obtain ⟨r, hr⟩ := Option.isSome_iff_exists.1 hplaces
  rw [play_settling, Ledger.play_nil]
  exact ⟨betting_deed, rfl, ⟨r, toOption_eq_some_iff.1 hr⟩, hstored⟩

theorem places_later : (((start.play [.call opening]).after betting).play
    [.call settling, .clock 6]).Places betting house bet
      ⟨player, pool, 0, 6, 50, 1000000, 255⟩ := by
  obtain ⟨_, _, _, _, _, hplaces, hstored⟩ := placed_again
  obtain ⟨r, hr⟩ := Option.isSome_iff_exists.1 hplaces
  rw [play_settling]
  exact ⟨betting_deed, rfl, ⟨r, toOption_eq_some_iff.1 hr⟩, hstored⟩

end Sample

/-- A message can come back: the bet of the first run is settled and placed
again in the same slot, and the house's word for the first bet settles the
second. -/
theorem message_comes_back : ¬ (∀ (S : Set Purpose) (L₀ : Ledger)
      (before between after : List Action) (c c' : Call) (H B B' : Key)
      (b b' : Bet), Apart S → L₀.Untouched →
      L₀.AllowsAll S (before ++ .call c :: (between ++ .call c' :: after)) →
      (L₀.play before).Places c H B b →
      (((L₀.play before).after c).play between).Places c' H B' b' →
      b.message ≠ b'.message)
    ∧ (∃ r, (Sample.ledger.run Sample.settling).result = .ok r)
    ∧ ∃ r, ((Sample.paid.after Sample.betting).run Sample.settling).result
      = .ok r := by
  obtain ⟨_, hsettles, _, _, hsettles', _⟩ := Sample.placed_again
  obtain ⟨r, hr⟩ := Option.isSome_iff_exists.1 hsettles
  obtain ⟨r', hr'⟩ := Option.isSome_iff_exists.1 hsettles'
  refine ⟨?_, ⟨r, toOption_eq_some_iff.1 hr⟩, ⟨r', toOption_eq_some_iff.1 hr'⟩⟩
  intro hdistinct
  have hallowed : Sample.start.AllowsAll (Known Sample.addresses)
      ([.call Sample.opening] ++ .call Sample.betting
        :: ([.call Sample.settling] ++ .call Sample.betting :: [])) :=
    ⟨Sample.opening_lawful, Sample.betting_lawful, Sample.settling_lawful,
      Sample.betting_lawful, trivial⟩
  exact hdistinct _ _ _ _ _ _ _ _ _ _ _ _
    Sample.apart Sample.start_untouched hallowed
    Sample.places_first Sample.places_second rfl

/-- One slot later the message is another. -/
theorem message_distinct_next_slot :
    Bet.message ⟨Sample.player, Sample.pool, 0, 5, 50, 1000000, 255⟩
      ≠ Bet.message ⟨Sample.player, Sample.pool, 0, 6, 50, 1000000, 255⟩ := by
  have hclock : Sample.paid.slot ≤ 6 := by
    rw [Sample.paid, Ledger.slot_after, Sample.ledger, Ledger.slot_after,
      Ledger.slot_after]
    decide
  have hallowed : Sample.start.AllowsAll (Known Sample.addresses)
      ([.call Sample.opening] ++ .call Sample.betting
        :: ([.call Sample.settling, .clock 6]
          ++ .call Sample.betting :: [])) := by
    refine ⟨Sample.opening_lawful, Sample.betting_lawful,
      Sample.settling_lawful, ?_, Sample.betting_lawful, trivial⟩
    rwa [Sample.paid, Sample.ledger] at hclock
  rcases Ledger.Untouched.message_distinct_or_repeated Sample.apart
    Sample.start_untouched hallowed
    Sample.places_first Sample.places_later with ⟨hne, _⟩ | ⟨_, hsame, _⟩
  · exact hne
  · exact absurd hsame (by decide)

end HouseDice
