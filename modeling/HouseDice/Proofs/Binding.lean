import HouseDice.Proofs.Ed25519
import HouseDice.Proofs.Message
import HouseDice.Proofs.Outflow
import HouseDice.Proofs.Refunds

/-!
# One signature, one open bet

What the house signs does not say against which pool a bet is, and players of
two houses may have bets on the very same terms. An instruction still vouches
for one open bet at most. It vouches for one check, so two bets that it fits
have one house and one message. The house has one pool and one vault. The
message is the terms, written without loss, and the seed is one of them. And a
bet stands at the address for its seed under its vault, so the two are one.
-/

namespace HouseDice

open Address

variable {S : Set Purpose} {L : Ledger} {x y : Seats} {b b' : Bet} {p p' : Pool}

/-- What a house signs for a bet can be put into an instruction. -/
theorem Bet.exists_vouches (b : Bet) (house : Key) (s : Signature) :
    ∃ i, Ed25519.Vouches i ⟨house, b.message, s⟩ := by
  refine ⟨_, Ed25519.Check.vouches_instruction _ ?_⟩
  show b.message.length < UInt16.size
  rw [b.length_message]
  decide

/-- Two open bets on the same terms against one house are one bet. -/
theorem Ledger.Holds.bet_eq (h : L.Holds x b p) (h' : L.Holds y b' p')
    (hL : Sound S L) (hhouse : x.house = y.house)
    (hmessage : b.message = b'.message) : x.bet = y.bet := by
  have hseed : b.seed = b'.seed :=
    congrArg Wager.seed (Bet.message_inj.1 hmessage)
  have hstand := h.stand hL
  rw [hseed] at hstand
  exact hstand.bet_eq (h'.stand hL) hhouse

/-- In every reachable ledger each open bet has instructions that vouch for it,
and no instruction vouches for two of them. -/
theorem Ledger.Reachable.vouched_once (hS : Apart S) (hL : L.Reachable S)
    {B B' : Key} (hb : L.bet? B = some b) (hb' : L.bet? B' = some b')
    (hne : B ≠ B') :
    ∃ p p', L.pool? b.pool = some p ∧ L.pool? b'.pool = some p'
      ∧ (∀ s, ∃ i, Ed25519.vouch i ⟨p.house, b.message, s⟩ = .ok ())
      ∧ ∀ i s s', Ed25519.vouch i ⟨p.house, b.message, s⟩ = .ok () →
        Ed25519.vouch i ⟨p'.house, b'.message, s'⟩ ≠ .ok () := by
  have hsound := hL.sound hS
  obtain ⟨p, hp, hholds⟩ := hsound.holds hb
  obtain ⟨p', hp', hholds'⟩ := hsound.holds hb'
  refine ⟨p, p', hp, hp', ?_, ?_⟩
  · intro s
    obtain ⟨i, hi⟩ := b.exists_vouches p.house s
    exact ⟨i, Ed25519.vouch_eq_ok_iff.2 hi⟩
  · intro i s s' hvouch hvouch'
    have hcheck := Ed25519.vouch_unique hvouch hvouch'
    rw [Ed25519.Check.mk.injEq] at hcheck
    obtain ⟨hhouse, hmessage, _⟩ := hcheck
    exact hne (hholds.bet_eq hholds' hsound hhouse hmessage)

namespace Sample

/-- Another house, and where the player's first bet against it stands. -/
def rival : Seats where
  house := Block.replicate 32 20
  player := player
  pool := ⟨[0x3b, 0xef, 0x89, 0xbd, 0x4f, 0x4c, 0xfa, 0x05, 0xde, 0x09, 0x4c,
    0xc5, 0x4c, 0xe1, 0x10, 0x16, 0x49, 0x8c, 0x5e, 0xe7, 0xe2, 0x9b, 0x6f,
    0xd0, 0x4b, 0xb6, 0x38, 0x33, 0xb1, 0x49, 0xb6, 0x12], rfl⟩
  vault := ⟨[0x8e, 0xa1, 0xdc, 0x94, 0x5d, 0xd2, 0xfd, 0xd1, 0x62, 0x3f, 0x3e,
    0x5e, 0xfd, 0xb0, 0x76, 0xd8, 0x2d, 0xd9, 0x20, 0x70, 0xc2, 0x8c, 0xb6,
    0x9e, 0x5f, 0xa5, 0x2c, 0x6b, 0x31, 0xda, 0x92, 0x43], rfl⟩
  bet := ⟨[0x55, 0x74, 0xbf, 0x04, 0x05, 0x37, 0x6f, 0x1b, 0x01, 0x91, 0x49,
    0xfb, 0xd5, 0x33, 0xeb, 0x5b, 0x5d, 0xf8, 0x68, 0xed, 0x00, 0x2a, 0x43,
    0x61, 0xcd, 0x96, 0xd0, 0x88, 0xf8, 0x9f, 0xa0, 0x89], rfl⟩

def rivalAddresses : List (Purpose × Key) :=
  (.pool rival.house, rival.pool) :: (.vault rival.house, rival.vault)
    :: (.bet rival.vault 0, rival.bet) :: addresses

def rivalCall (r : Request) : Call where
  program := Key.game
  accounts := Call.accountsFor r.kind rival.key
  data := r.encode
  before := []
  index := 0

/-- Somebody gives the other house something to spend. Both houses open their
pools, and the player bets against each on the same terms. -/
def rivalry : List Action :=
  [.outside (start.setLamports rival.house 1000000000).accounts, .call opening,
    .call betting, .call (rivalCall (.initializePool 100000000)),
    .call (rivalCall (.placeBet 0 1000000 50))]

def rivals : Ledger := start.play rivalry

theorem find?_rivalAddresses :
    ∀ e ∈ rivalAddresses, (find? e.1).map Prod.fst = some e.2 := by
  refine List.forall_mem_cons.2 ⟨by decide +kernel, ?_⟩
  refine List.forall_mem_cons.2 ⟨by decide +kernel, ?_⟩
  exact List.forall_mem_cons.2 ⟨by decide +kernel, find?_addresses⟩

theorem rivals_apart : Apart (Known rivalAddresses) :=
  apart_known find?_rivalAddresses (by decide +kernel)

theorem rivalry_allowed : start.AllowsAll (Known rivalAddresses) rivalry :=
  ⟨Ledger.allows_gift _ (by decide +kernel),
    Call.lawful_known find?_rivalAddresses (by decide +kernel)
      (by decide +kernel),
    Call.lawful_known find?_rivalAddresses (by decide +kernel)
      (by decide +kernel),
    Call.lawful_known find?_rivalAddresses (by decide +kernel)
      (by decide +kernel),
    Call.lawful_known find?_rivalAddresses (by decide +kernel)
      (by decide +kernel), trivial⟩

theorem rivals_reachable : rivals.Reachable (Known rivalAddresses) :=
  ⟨start, rivalry, start_untouched, rivalry_allowed, rfl⟩

/-- What the run leaves of both pools and bets, and that the first house can
settle its own. -/
theorem rivals_stored : rivals.pool? pool
      = some ⟨house, 255, vault, 255, 5, 100000000, 1, 1000000, 1000000, 0, 0,
        1⟩
    ∧ rivals.bet? bet = some ⟨player, pool, 0, 5, 50, 1000000, 255⟩
    ∧ rivals.pool? rival.pool
      = some ⟨rival.house, 255, rival.vault, 255, 5, 100000000, 1, 1000000,
        1000000, 0, 0, 1⟩
    ∧ rivals.bet? rival.bet = some ⟨player, rival.pool, 0, 5, 50, 1000000, 255⟩
    ∧ (rivals.run settling).result.toOption.isSome := by
  decide +kernel

end Sample

/-- The same message at two houses: what one of them has signed is of no use at
the other. -/
theorem vouched_once_two_houses :
    Bet.message ⟨Sample.player, Sample.pool, 0, 5, 50, 1000000, 255⟩
        = Bet.message ⟨Sample.player, Sample.rival.pool, 0, 5, 50, 1000000, 255⟩
      ∧ ∃ i, Ed25519.vouch i ⟨Sample.house,
          Bet.message ⟨Sample.player, Sample.pool, 0, 5, 50, 1000000, 255⟩,
          Block.replicate 64 3⟩
            = .ok ()
        ∧ ∀ s, Ed25519.vouch i ⟨Sample.rival.house,
          Bet.message ⟨Sample.player, Sample.rival.pool, 0, 5, 50, 1000000,
            255⟩, s⟩ ≠ .ok () := by
  obtain ⟨hpool, hbet, hpool', hbet', _⟩ := Sample.rivals_stored
  obtain ⟨p, p', hp, hp', hvouched, honce⟩ :=
    Ledger.Reachable.vouched_once Sample.rivals_apart
      Sample.rivals_reachable hbet hbet' (by decide)
  cases hp.symm.trans hpool
  cases hp'.symm.trans hpool'
  obtain ⟨i, hi⟩ := hvouched (Block.replicate 64 3)
  exact ⟨rfl, i, hi, fun s => honce i _ s hi⟩

end HouseDice
