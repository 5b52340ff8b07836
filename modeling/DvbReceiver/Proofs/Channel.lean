import DvbReceiver.Channel
import Mathlib.Data.Int.ModEq
import Mathlib.Data.List.Perm.Basic

/-!
# Going through the channels

`Channel.replies` are the channels that requests lead to, one after another. The channels lie in a
circle, and up and down take one step in it, forwards and back (`Channel.exists_next?`). So of any
number of them only the sum matters, and going up comes to every channel (`Channel.circular`).

What a request leads to is a channel, with one exception: from an index beyond the services, down
goes down by one (`Channel.tunable_or_beyond`). `Channel.tunable_iff` says which requests stay among
the channels.
-/

namespace DvbReceiver

/-- How far a request goes in the circle of the channels. -/
def ChannelRequest.turn : ChannelRequest → Int
  | up => 1
  | down => -1
  | direct _ => 0

namespace Channel

variable {count current start index : Nat} {request : ChannelRequest}
  {requests : List ChannelRequest}

/-- What the requests lead to, one after another. One that leads nowhere changes nothing. -/
def replies (count current : Nat) : List ChannelRequest → List (Option Nat)
  | [] => []
  | request :: requests =>
    next? current count request :: replies count (step count current request) requests

/-- The index is that of a service that can be tuned. -/
def Tunable (count index : Nat) : Prop := first ≤ index ∧ index < count

/-! ## One request -/

theorem next?_of_count_lt (h : count < 2) (current : Nat) (request : ChannelRequest) :
    next? current count request = none := by
  unfold next? first
  exact if_pos (by omega)

theorem next?_up (h : 2 ≤ count) (current : Nat) :
    next? current count .up = some (if count - 1 ≤ current then 1 else current + 1) := by
  unfold next? first
  exact if_neg (by omega)

theorem next?_down (h : 2 ≤ count) (current : Nat) :
    next? current count .down = some (if current ≤ 1 then count - 1 else current - 1) := by
  unfold next? first
  exact if_neg (by omega)

theorem next?_direct_eq_some_iff {wanted : Nat} :
    next? current count (.direct wanted) = some index ↔ wanted = index ∧ Tunable count index := by
  unfold next? Tunable first
  dsimp only
  split_ifs <;> grind

theorem next?_eq_none_iff (h : 2 ≤ count) :
    next? current count request = none ↔
      ∃ wanted, request = .direct wanted ∧ ¬Tunable count wanted := by
  cases request with
  | up => simp [next?_up h]
  | down => simp [next?_down h]
  | direct wanted =>
    rw [Option.eq_none_iff_forall_ne_some]
    simp [next?_direct_eq_some_iff]

theorem step_eq {next : Nat} (h : next? current count request = some next) :
    step count current request = next := by
  rw [step, h, Option.getD_some]

theorem step_eq_self (h : next? current count request = none) :
    step count current request = current := by
  rw [step, h, Option.getD_none]

theorem two_le_of_next? (h : next? current count request = some index) : 2 ≤ count := by
  refine Nat.not_lt.1 fun hlt => ?_
  rw [next?_of_count_lt hlt] at h
  cases h

/-- A request leads to a channel, unless it is down from beyond the services. -/
theorem tunable_or_beyond (h : next? current count request = some index) :
    Tunable count index ∨ request = .down ∧ count < current := by
  have hcount := two_le_of_next? h
  unfold Tunable first
  cases request with
  | up =>
    rw [next?_up hcount, Option.some.injEq] at h
    split at h <;> omega
  | down =>
    rw [next?_down hcount, Option.some.injEq] at h
    simp only [true_and]
    split at h <;> omega
  | direct wanted => exact Or.inl (next?_direct_eq_some_iff.1 h).2

/-- From a channel, a request leads to a channel. -/
theorem bounds_of_next? (hcurrent : first ≤ current ∧ current < count)
    (h : next? current count request = some index) : first ≤ index ∧ index < count :=
  (tunable_or_beyond h).resolve_right fun hbeyond => by omega

/-! ## Staying among the channels -/

/-- The first of the requests that leads anywhere goes down from beyond the services. -/
def Strays (count current : Nat) (requests : List ChannelRequest) : Prop :=
  2 ≤ count ∧ count < current ∧ ∃ before after, requests = before ++ .down :: after ∧
    ∀ request ∈ before, ∃ wanted, request = .direct wanted ∧ ¬Tunable count wanted

theorem strays_of_next? (h : next? current count request = some index)
    (hindex : ¬Tunable count index) (requests : List ChannelRequest) :
    Strays count current (request :: requests) := by
  obtain ⟨rfl, hlt⟩ := (tunable_or_beyond h).resolve_left hindex
  exact ⟨two_le_of_next? h, hlt, [], requests, rfl, List.forall_mem_nil _⟩

theorem Strays.cons (h : Strays count current requests)
    (hnone : next? current count request = none) : Strays count current (request :: requests) := by
  obtain ⟨hcount, hlt, before, after, rfl, hbefore⟩ := h
  exact ⟨hcount, hlt, request :: before, after, rfl,
    List.forall_mem_cons.2 ⟨(next?_eq_none_iff hcount).1 hnone, hbefore⟩⟩

/-- Requests that lead to an index that is no channel began by going down from beyond the
services. -/
theorem strays_of_mem_replies (h : some index ∈ replies count current requests)
    (hindex : ¬Tunable count index) : Strays count current requests := by
  induction requests generalizing current with
  | nil => cases h
  | cons request requests ih =>
    rcases List.mem_cons.1 h with hhead | htail
    · exact strays_of_next? hhead.symm hindex requests
    have hstrays := ih htail
    rcases hnext : next? current count request with _ | next
    · rw [step_eq_self hnext] at hstrays
      exact hstrays.cons hnext
    -- What strays from the next index has that index beyond the services already.
    · rw [step_eq hnext] at hstrays
      refine strays_of_next? hnext (fun htunable => ?_) requests
      exact absurd htunable.2 (Nat.lt_asymm hstrays.2.1)

/-- Requests that lead nowhere leave the next one where it was. -/
theorem replies_append_of_none {before : List ChannelRequest}
    (h : ∀ request ∈ before, next? current count request = none) (requests : List ChannelRequest) :
    replies count current (before ++ requests) =
      before.map (fun _ => none) ++ replies count current requests := by
  induction before with
  | nil => rfl
  | cons request before ih =>
    rw [List.forall_mem_cons] at h
    rw [List.cons_append, replies, h.1, step_eq_self h.1, ih h.2]
    rfl

theorem Strays.mem_replies (h : Strays count current requests) :
    some (current - 1) ∈ replies count current requests := by
  obtain ⟨hcount, hlt, before, after, rfl, hbefore⟩ := h
  have hnone : ∀ request ∈ before, next? current count request = none :=
    fun request hmem => (next?_eq_none_iff hcount).2 (hbefore request hmem)
  rw [replies_append_of_none hnone, replies, next?_down hcount, if_neg (by omega)]
  exact List.mem_append_right _ List.mem_cons_self

/-- **Requests lead to channels only**, one after another, unless they begin by going down from
beyond the services. -/
theorem tunable_iff (count current : Nat) (requests : List ChannelRequest) :
    (∀ index, some index ∈ replies count current requests → 1 ≤ index ∧ index < count) ↔
      ¬Strays count current requests := by
  constructor
  · intro h hstrays
    have hbeyond := h _ hstrays.mem_replies
    have hlt := hstrays.2.1
    omega
  · intro h index hmem
    by_contra hindex
    exact h (strays_of_mem_replies hmem hindex)

/-- With one service to tune, going down from index 3 leads to index 2. -/
theorem not_always_tunable :
    ¬∀ (count current : Nat) (requests : List ChannelRequest) (index : Nat),
      some index ∈ replies count current requests → 1 ≤ index ∧ index < count := by
  intro h
  exact absurd (h 2 3 [.down] 2 (by decide)) (by decide)

/-! ## Going round -/

/-- Up and down are steps in a circle. -/
theorem exists_next? (h : Tunable count current) (hrequest : request = .up ∨ request = .down) :
    ∃ next, next? current count request = some next ∧ Tunable count next ∧
      next ≡ current + request.turn [ZMOD count - 1] := by
  unfold Tunable first at *
  rcases hrequest with rfl | rfl
  · refine ⟨_, next?_up (by omega) current, ?_⟩
    by_cases hlast : count - 1 ≤ current
    · rw [if_pos hlast]
      exact ⟨by omega, Int.modEq_iff_dvd.2 ⟨1, by rw [ChannelRequest.turn]; omega⟩⟩
    · rw [if_neg hlast]
      exact ⟨by omega, Int.modEq_iff_dvd.2 ⟨0, by rw [ChannelRequest.turn]; omega⟩⟩
  · refine ⟨_, next?_down (by omega) current, ?_⟩
    by_cases hfirst : current ≤ 1
    · rw [if_pos hfirst]
      exact ⟨by omega, Int.modEq_iff_dvd.2 ⟨-1, by rw [ChannelRequest.turn]; omega⟩⟩
    · rw [if_neg hfirst]
      exact ⟨by omega, Int.modEq_iff_dvd.2 ⟨0, by rw [ChannelRequest.turn]; omega⟩⟩

theorem turn_sum (requests : List ChannelRequest) :
    (requests.map ChannelRequest.turn).sum = requests.count .up - requests.count .down := by
  induction requests with
  | nil => rfl
  | cons request requests ih =>
    rw [List.map_cons, List.sum_cons, ih]
    cases request <;> simp [ChannelRequest.turn] <;> omega

/-- Ups and downs always lead on, and what they lead to depends on their sum. -/
theorem lands (h : Tunable count start)
    (hrequests : ∀ request ∈ requests, request = .up ∨ request = .down) :
    none ∉ replies count start requests ∧ Tunable count (requests.foldl (step count) start) ∧
      (requests.foldl (step count) start : Nat) ≡
        start + (requests.map ChannelRequest.turn).sum [ZMOD count - 1] := by
  induction requests generalizing start with
  | nil => exact ⟨List.not_mem_nil, h, by simp⟩
  | cons request requests ih =>
    rw [List.forall_mem_cons] at hrequests
    obtain ⟨next, hnext, htunable, hmod⟩ := exists_next? h hrequests.1
    obtain ⟨hnone, hend, hmod'⟩ := ih htunable hrequests.2
    rw [replies, List.foldl_cons, step_eq hnext, hnext, List.map_cons, List.sum_cons, ← add_assoc]
    exact ⟨by simpa using hnone, hend, hmod'.trans (hmod.add_right _)⟩

/-- Going up from a channel, one after another. -/
theorem replies_up {more : Nat} (h : start + more < count) (requests : List ChannelRequest) :
    replies count start (List.replicate more .up ++ requests) =
      (List.range' (start + 1) more).map some ++ replies count (start + more) requests := by
  induction more generalizing start with
  | zero => rfl
  | succ more ih =>
    have hnext : next? start count .up = some (start + 1) := by
      rw [next?_up (by omega), if_neg (by omega)]
    rw [List.replicate_succ, List.cons_append, replies, step_eq hnext, hnext, ih (by omega),
      List.range'_succ, List.map_cons, List.cons_append]
    congr 3
    omega

/-- Going up leads to the last channel, and from the first one back to where it began. -/
theorem replies_all_up (h : Tunable count start) :
    replies count start (List.replicate (count - 1) .up) =
      (List.range' (1 + start) (count - 1 - start)).map some ++
        (List.range' 1 start).map some := by
  unfold Tunable first at h
  obtain ⟨before, rfl⟩ : ∃ before, start = before + 1 := ⟨start - 1, by omega⟩
  -- The step from the last channel to the first one cuts the way in two.
  have hsplit : count - 1 = (count - 1 - (before + 1)) + (before + 1) := by omega
  have hwrap : next? (count - 1) count .up = some 1 := by
    rw [next?_up (by omega), if_pos (Nat.le_refl _)]
  have hlast : before + 1 + (count - 1 - (before + 1)) = count - 1 := by omega
  have hrest : replies count 1 (List.replicate before .up) = (List.range' 2 before).map some := by
    have hup := replies_up (show 1 + before < count by omega) []
    rwa [List.append_nil, replies, List.append_nil] at hup
  conv_lhs => rw [hsplit, List.replicate_add, List.replicate_succ, replies_up (by omega), hlast,
    replies, step_eq hwrap, hwrap, hrest]
  rw [List.range'_succ, List.map_cons, Nat.add_comm 1 (before + 1)]

/-- Up and down go round the channels of a PAT with so many services. -/
structure Circular (count : Nat) : Prop where
  /-- Ups and downs in any order lead on, and end where their numbers say. -/
  lands : ∀ start requests, 1 ≤ start → start < count →
    (∀ request ∈ requests, request = .up ∨ request = .down) →
      none ∉ replies count start requests ∧
        (requests.foldl (step count) start : Nat) =
          ((start : Int) - 1 + requests.count .up - requests.count .down) % (count - 1) + 1
  up_down : ∀ start, 1 ≤ start → start < count →
    (next? start count .up).bind (next? · count .down) = some start
  down_up : ∀ start, 1 ≤ start → start < count →
    (next? start count .down).bind (next? · count .up) = some start
  /-- Going up as often as there are channels leads to each of them once. -/
  visits : ∀ start, 1 ≤ start → start < count →
    (replies count start (List.replicate (count - 1) .up)).Perm
      ((List.range' 1 (count - 1)).map some)
  up_reserved : next? 0 count .up = some 1
  down_reserved : next? 0 count .down = some (count - 1)

/-- **Stepping through the channels is cyclic** as long as there are any, and leads nowhere if
there are none. -/
theorem circular (count : Nat) :
    (2 ≤ count → Circular count) ∧
      (count < 2 → ∀ current request, next? current count request = none) := by
  refine ⟨fun hcount => ⟨?_, ?_, ?_, ?_, ?_, ?_⟩, next?_of_count_lt⟩
  · intro start requests hfirst hlast hrequests
    obtain ⟨hnone, hend, hmod⟩ := lands ⟨hfirst, hlast⟩ hrequests
    refine ⟨hnone, ?_⟩
    unfold Tunable first at hend
    have hmod' := hmod.sub_right 1
    rw [turn_sum, Int.ModEq, Int.emod_eq_of_lt (by omega) (by omega)] at hmod'
    have hsum : (start : Int) - 1 + requests.count .up - requests.count .down =
        start + (requests.count .up - requests.count .down) - 1 := by omega
    rw [hsum, ← hmod']
    omega
  · intro start hfirst hlast
    rw [next?_up hcount, Option.bind_some, next?_down hcount, Option.some.injEq]
    split_ifs <;> omega
  · intro start hfirst hlast
    rw [next?_down hcount, Option.bind_some, next?_up hcount, Option.some.injEq]
    split_ifs <;> omega
  · intro start hfirst hlast
    have hall : start + (count - 1 - start) = count - 1 := by omega
    rw [replies_all_up ⟨hfirst, hlast⟩, ← List.map_append]
    refine List.Perm.map some (List.perm_append_comm.trans (List.Perm.of_eq ?_))
    rw [List.range'_append_1, hall]
  · rw [next?_up hcount, if_neg (by omega)]
  · rw [next?_down hcount, if_pos (Nat.zero_le _)]

/-- With three channels: over the last one and back, and all the way up from the second. -/
theorem circular_of_threeChannels :
    2 ≤ 4 ∧ none ∉ replies 4 3 [.up, .down, .down] ∧
      ([.up, .down, .down].foldl (step 4) 3 : Nat) = ((3 : Int) - 1 + 1 - 2) % (4 - 1) + 1 ∧
      (next? 3 4 .up).bind (next? · 4 .down) = some 3 ∧
      (replies 4 2 (List.replicate 3 .up)).Perm [some 1, some 2, some 3] ∧
      1 < 2 ∧ next? 5 1 .down = none := by
  have hcircular := (circular 4).1 (by decide)
  obtain ⟨hnone, hend⟩ := hcircular.lands 3 [.up, .down, .down] (by decide) (by decide) (by decide)
  exact ⟨by decide, hnone, hend, hcircular.up_down 3 (by decide) (by decide),
    hcircular.visits 2 (by decide) (by decide), by decide, (circular 1).2 (by decide) 5 .down⟩

end Channel

end DvbReceiver
