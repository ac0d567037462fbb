/-
This file states what publications that overlap come to. Every mailbox takes a
part of what each publisher publishes on its topics, in the order of that
publisher and nothing twice, and it takes all of it if it has room for all that is
published; each publication returns to how many mailboxes its message went. Two
mailboxes may take the messages of different publishers in different orders.
-/

import Mathlib.Data.List.Count
import ServerMonitor.Proofs.Bus.Publishers

namespace ServerMonitor

variable {Message : Type}

namespace SharedBus

/-! ### What is read off a run -/

section Record

variable (bus : Bus Message) (agendas : List (List (String × Message))) (turns : List Turn)

def after : SharedBus Message := Machine.run perform (start bus agendas) turns

/-- The offers that were made, in that order. -/
def offers : List (Offer Message) :=
  Machine.log perform (fun shared turn => (shared.perform turn).2.offers) (start bus agendas) turns

/-- The messages that the receiver of a mailbox was given, in that order. -/
def received (id : Nat) : List Message :=
  Machine.log perform (fun shared turn => (shared.perform turn).2.given id)
    (start bus agendas) turns

/-- What the publications of a publisher returned, in that order. -/
def Answer.result (publisher : Nat) : Answer Message → List Nat
  | returned index delivered => if index = publisher then [delivered] else []
  | _ => []

def results (publisher : Nat) : List Nat :=
  Machine.log perform (fun shared turn => (shared.perform turn).2.result publisher)
    (start bus agendas) turns

/-- What a mailbox took, in that order. -/
def ledger (id : Nat) : List (Posting Message) :=
  (offers bus agendas turns).flatMap (Offer.accepted id)

/-- How many mailboxes took the message that has this number at this publisher. -/
def taken (index position : Nat) : Nat :=
  (List.range bus.nextId).countP fun id => (ledger bus agendas turns id).any fun posting =>
    posting.publisher = index ∧ posting.position = position

/-- All that is to be published, publisher by publisher. -/
def published : List (Posting Message) :=
  agendas.zipIdx.flatMap fun agenda => Publisher.postings agenda.2 0 agenda.1

/-- All that is to be published on the topics of a mailbox. -/
def matching (id : Nat) : List (Posting Message) :=
  (published agendas).filter (Publisher.isFor bus.registered id)

end Record

/-! ### Lists that are told apart by a key -/

section Parts

variable {Entry Key : Type} [DecidableEq Key] (key : Entry → Key)

theorem nodup_of_parts {entries : List Entry}
    (parts : ∀ value, (entries.filter fun entry => key entry = value).Nodup) : entries.Nodup := by
  induction entries with
  | nil => exact List.nodup_nil
  | cons entry rest inductionHypothesis =>
    have own := parts (key entry)
    rw [List.filter_cons_of_pos (by simp), List.nodup_cons] at own
    refine List.nodup_cons.mpr ⟨fun again => own.1 ?_, inductionHypothesis fun value => ?_⟩
    · exact List.mem_filter.mpr ⟨again, decide_eq_true rfl⟩
    · exact (parts value).sublist ((List.sublist_cons_self entry rest).filter _)

theorem mem_of_parts {entries others : List Entry}
    (parts : ∀ value, (entries.filter fun entry => key entry = value) ⊆
      others.filter fun entry => key entry = value) {entry : Entry} (member : entry ∈ entries) :
    entry ∈ others :=
  (List.mem_filter.mp (parts (key entry)
    (List.mem_filter.mpr ⟨member, decide_eq_true rfl⟩))).1

end Parts

theorem flatMap_sublist_flatMap {Entry Image : Type} {part whole : Entry → List Image}
    (within : ∀ entry, (part entry).Sublist (whole entry)) (entries : List Entry) :
    (entries.flatMap part).Sublist (entries.flatMap whole) := by
  induction entries with
  | nil => exact List.Sublist.slnil
  | cons entry rest inductionHypothesis => exact (within entry).append inductionHypothesis

/-! ### What is to be published -/

theorem publisher_of_mem_postings {index position : Nat} {agenda : List (String × Message)}
    {posting : Posting Message} (member : posting ∈ Publisher.postings index position agenda) :
    posting.publisher = index := by
  obtain ⟨_, _, rfl⟩ := List.mem_map.mp member
  rfl

theorem map_position_postings (index position : Nat) (agenda : List (String × Message)) :
    (Publisher.postings index position agenda).map (·.position) =
      List.range' position agenda.length := by
  rw [Publisher.postings, List.map_map]
  exact List.zipIdx_map_snd position agenda

theorem filter_postings (index position other : Nat) (agenda : List (String × Message)) :
    ((Publisher.postings index position agenda).filter fun posting => posting.publisher = other) =
      if index = other then Publisher.postings index position agenda else [] := by
  split
  · rename_i same
    exact List.filter_eq_self.mpr fun posting member =>
      decide_eq_true ((publisher_of_mem_postings member).trans same)
  · rename_i different
    exact List.filter_eq_nil_iff.mpr fun posting member found =>
      different ((publisher_of_mem_postings member).symm.trans (of_decide_eq_true found))

/-- Of all that is to be published, a publisher publishes its own agenda. -/
theorem filter_published (agendas : List (List (String × Message))) (index : Nat) :
    ((published agendas).filter fun posting => posting.publisher = index) =
      agendas[index]?.elim [] (Publisher.postings index 0) := by
  -- The induction is over the agendas from some index on.
  suffices from_index : ∀ first, ((agendas.zipIdx first).flatMap fun agenda =>
      Publisher.postings agenda.2 0 agenda.1).filter (fun posting => posting.publisher = index) =
        if first ≤ index then agendas[index - first]?.elim [] (Publisher.postings index 0)
        else [] by
    exact (from_index 0).trans (if_pos (Nat.zero_le index))
  induction agendas with
  | nil => simp
  | cons agenda rest inductionHypothesis =>
    intro first
    rw [List.zipIdx_cons, List.flatMap_cons, List.filter_append, filter_postings,
      inductionHypothesis]
    rcases Nat.lt_trichotomy first index with before | rfl | behind
    · rw [if_neg before.ne, if_pos (Nat.succ_le_of_lt before), if_pos before.le,
        show index - first = index - (first + 1) + 1 by omega, List.getElem?_cons_succ]
      rfl
    · rw [if_pos rfl, if_neg (Nat.not_succ_le_self first), if_pos le_rfl, Nat.sub_self,
        List.append_nil]
      rfl
    · rw [if_neg behind.ne', if_neg (by omega), if_neg (by omega)]
      rfl

theorem filter_matching (bus : Bus Message) (agendas : List (List (String × Message)))
    (index id : Nat) :
    ((matching bus agendas id).filter fun posting => posting.publisher = index) =
      (agendas[index]?.elim [] (Publisher.postings index 0)).filter
        (Publisher.isFor bus.registered id) := by
  rw [matching, List.filter_comm, filter_published]

/-- The messages of a publisher are told apart by their numbers. -/
theorem nodup_positions_matching (bus : Bus Message) (agendas : List (List (String × Message)))
    (index id : Nat) :
    (((matching bus agendas id).filter fun posting => posting.publisher = index).map
      (·.position)).Nodup := by
  rw [filter_matching]
  refine List.Nodup.sublist (List.filter_sublist.map _) ?_
  cases agendas[index]? with
  | none => exact List.nodup_nil
  | some agenda =>
    show ((Publisher.postings index 0 agenda).map (·.position)).Nodup
    rw [map_position_postings]
    exact List.nodup_range'

theorem nodup_matching (bus : Bus Message) (agendas : List (List (String × Message))) (id : Nat) :
    (matching bus agendas id).Nodup :=
  nodup_of_parts (·.publisher) fun index =>
    List.Nodup.of_map _ (nodup_positions_matching bus agendas index id)

/-! ### What is offered -/

/-- The posting of an offer to this mailbox. -/
def Offer.to (id : Nat) (offer : Offer Message) : List (Posting Message) :=
  if offer.id = id then [offer.posting] else []

theorem Offer.filter_to (index id : Nat) (offer : Offer Message) :
    ((offer.to id).filter fun posting => posting.publisher = index) = offer.between index id := by
  rw [Offer.to, Offer.between]
  by_cases here : offer.id = id <;> by_cases own : offer.posting.publisher = index <;>
    simp [here, own]

theorem Offer.accepted_sublist (id : Nat) (offer : Offer Message) :
    (offer.accepted id).Sublist (offer.to id) := by
  rw [Offer.accepted, Offer.to]
  by_cases here : offer.id = id
  · cases offer.taken <;> simp [here]
  · simp [here]

/-! ### What is counted -/

/-- The mailbox of an offer of this message, if the mailbox took it. -/
def Offer.taker (index position : Nat) (offer : Offer Message) : List Nat :=
  if offer.taken = true ∧ offer.posting.publisher = index ∧ offer.posting.position = position then
    [offer.id]
  else []

end SharedBus

namespace Publisher

/-- What is known of a publisher: what its publications returned, how many mailboxes took which of
its messages, and how many messages it has in all. -/
structure Accounted (results : List Nat) (taken : Nat → Nat) (total : Nat)
    (publisher : Publisher Message) : Prop where
  results : results = (List.range publisher.position).map taken
  counting : publisher.acceptances.count .queued = taken publisher.position
  later : ∀ position, publisher.position < position → taken position = 0
  length : publisher.position + publisher.agenda.length = total

theorem Accounted.advance {results : List Nat} {taken : Nat → Nat} {total : Nat}
    {publisher : Publisher Message} (accounted : publisher.Accounted results taken total)
    (bus : Bus Message) (index : Nat) :
    let answer := (publisher.advance bus index).2
    (publisher.advance bus index).1.2.Accounted (results ++ answer.result index)
      (fun position => taken position +
        (answer.offers.flatMap (SharedBus.Offer.taker index position)).length) total := by
  intro answer
  rcases publisher.advance_cases bus index with
    ⟨done, position, acceptances, length⟩ |
    ⟨posting, id, acceptance, offered, own, current, -, position, acceptances, length⟩ |
    ⟨returned, position, acceptances, length⟩
  · rw [show answer = .done from done]
    refine ⟨?_, ?_, fun later behind => ?_, ?_⟩
    · rw [position]
      exact (List.append_nil _).trans accounted.results
    · rw [acceptances, position]
      exact accounted.counting
    · exact accounted.later later (position ▸ behind)
    · rw [position, length, accounted.length]
  · rw [show answer = .offered posting id acceptance from offered]
    have others (other : Nat) (different : publisher.position ≠ other) :
        SharedBus.Offer.taker index other ⟨id, posting, acceptance = .queued⟩ = [] :=
      if_neg fun all => different (current.symm.trans all.2.2)
    simp only [SharedBus.Answer.offers, List.flatMap_cons, List.flatMap_nil, List.append_nil]
    refine ⟨?_, ?_, fun later behind => ?_, ?_⟩
    · rw [position, accounted.results]
      refine (List.append_nil _).trans (List.map_congr_left fun earlier before => ?_)
      rw [others earlier (List.mem_range.mp before).ne']
      rfl
    · rw [acceptances, position, List.count_append, accounted.counting, SharedBus.Offer.taker]
      by_cases queued : acceptance = .queued <;> simp [queued, own, current]
    · rw [position] at behind
      rw [others later behind.ne, accounted.later later behind]
      rfl
    · rw [position, length, accounted.length]
  · rw [show answer = .returned index (publisher.acceptances.count .queued) from returned]
    refine ⟨?_, ?_, fun later behind => ?_, ?_⟩
    · rw [position, List.range_succ, List.map_append, List.map_singleton, accounted.results,
        accounted.counting, SharedBus.Answer.result, if_pos rfl]
      rfl
    · rw [acceptances, position]
      exact (accounted.later _ (Nat.lt_succ_self _)).symm
    · rw [position] at behind
      exact accounted.later later (Nat.lt_of_succ_lt behind)
    · rw [position, ← accounted.length]
      omega

end Publisher

namespace SharedBus

theorem Answer.result_eq_nil {answer : Answer Message} {index : Nat}
    (silent : ∀ delivered, answer ≠ .returned index delivered) : answer.result index = [] := by
  cases answer with
  | returned other delivered =>
    refine if_neg fun own => silent delivered ?_
    rw [own]
  | _ => rfl

section Run

variable {bus : Bus Message} (agendas : List (List (String × Message))) (turns : List Turn)

/-- The messages that were offered to a mailbox, in that order. -/
def offered (bus : Bus Message) (id : Nat) : List (Posting Message) :=
  (offers bus agendas turns).flatMap (Offer.to id)

theorem ledger_sublist_offered (id : Nat) :
    (ledger bus agendas turns id).Sublist (offered agendas turns bus id) :=
  flatMap_sublist_flatMap (Offer.accepted_sublist id) _

section Alive

variable (sound : bus.Sound)
  (alive : ∀ topic, ∀ id ∈ bus.registered topic, bus.waiting? id ≠ none)

include alive

theorem sound_after : (after bus agendas turns).Sound bus := by
  refine Machine.run_invariant perform (Sound bus) (fun _ turn sound => sound.perform turn)
    ⟨rfl, rfl, alive, ?_⟩ turns
  intro publisher member
  obtain ⟨agenda, -, rfl⟩ := List.mem_map.mp member
  nofun

include sound

/-- What a publisher has offered to a mailbox and what it has yet to offer to it is what it has to
publish there. -/
theorem offered_append_ahead (index id : Nat) :
    ((offered agendas turns bus id).filter fun posting => posting.publisher = index) ++
        (after bus agendas turns).ahead bus index id =
      (matching bus agendas id).filter fun posting => posting.publisher = index := by
  have kept := Machine.log_append_eq perform
    (fun shared turn => (shared.perform turn).2.offers.flatMap (Offer.between index id))
    (ahead bus index id) (fun _ _ => []) (Sound bus) (fun _ turn sound => sound.perform turn)
    (fun _ => True) (fun _ _ _ _ => trivial)
    (fun _ turn orderly _ => (offers_append_ahead orderly sound.registeredOnce index id turn).trans
      (List.append_nil _).symm)
    (sound_after agendas [] alive) turns trivial
  rw [Machine.log_eq_nil perform fun _ _ => rfl, List.append_nil,
    ← Machine.flatMap_log] at kept
  rw [offered, List.filter_flatMap]
  simp only [Offer.filter_to]
  refine kept.trans ?_
  rw [filter_matching, ahead, after, Machine.run, List.foldl_nil, start, List.getElem?_map]
  cases agendas[index]? with
  | none => rfl
  | some agenda => exact Publisher.ahead_of_not_begun bus.registered index id agenda 0

theorem offered_isPrefix (index id : Nat) :
    ((offered agendas turns bus id).filter fun posting => posting.publisher = index) <+:
      (matching bus agendas id).filter fun posting => posting.publisher = index :=
  ⟨_, offered_append_ahead agendas turns sound alive index id⟩

theorem nodup_offered (id : Nat) : (offered agendas turns bus id).Nodup :=
  nodup_of_parts (·.publisher) fun index =>
    ((nodup_matching bus agendas id).filter _).sublist
      (offered_isPrefix agendas turns sound alive index id).sublist

theorem offered_subset (id : Nat) : offered agendas turns bus id ⊆ matching bus agendas id :=
  fun _ => mem_of_parts (·.publisher) fun index =>
    (offered_isPrefix agendas turns sound alive index id).subset

theorem length_offered_le (id : Nat) :
    (offered agendas turns bus id).length ≤ (matching bus agendas id).length :=
  ((nodup_offered agendas turns sound alive id).subperm
    (offered_subset agendas turns sound alive id)).length_le

end Alive

/-! ### What is taken -/

/-- A mailbox keeps what it took until its receiver is given it. -/
theorem received_append_queued (id : Nat) (empty : bus.queued id = []) :
    received bus agendas turns id ++ (after bus agendas turns).bus.queued id =
      (ledger bus agendas turns id).map (·.message) := by
  have kept : received bus agendas turns id ++ (after bus agendas turns).bus.queued id = _ :=
    Machine.log_append_eq perform _ (fun shared => shared.bus.queued id)
      (fun shared turn =>
        ((shared.perform turn).2.offers.flatMap (Offer.accepted id)).map (·.message))
      (fun _ => True) (fun _ _ _ => trivial) (fun _ => True) (fun _ _ _ _ => trivial)
      (fun shared turn _ _ => shared.given_append_queued id turn) trivial turns trivial
  rw [ledger, offers, Machine.flatMap_log, Machine.map_log]
  refine kept.trans ?_
  show bus.queued id ++ _ = _
  rw [empty, List.nil_append]

theorem after_concat (turn : Turn) :
    after bus agendas (turns ++ [turn]) = ((after bus agendas turns).perform turn).1 :=
  Machine.run_concat perform _ turns turn

theorem offers_concat (turn : Turn) :
    offers bus agendas (turns ++ [turn]) =
      offers bus agendas turns ++ ((after bus agendas turns).perform turn).2.offers :=
  Machine.log_concat perform _ _ turns turn

theorem results_concat (turn : Turn) (index : Nat) :
    results bus agendas (turns ++ [turn]) index =
      results bus agendas turns index ++
        ((after bus agendas turns).perform turn).2.result index :=
  Machine.log_concat perform _ _ turns turn

/-- A mailbox whose receiver is there takes whatever it has room for. -/
theorem taken_of_room {shared : SharedBus Message} (sound : shared.Sound bus) {turn : Turn}
    {offer : Offer Message} (made : offer ∈ (shared.perform turn).2.offers)
    (room : (shared.bus.queued offer.id).length < shared.bus.capacity) : offer.taken = true := by
  cases turn with
  | receive id => cases made
  | proceed index =>
    have orderly := (sound.perform (.proceed index)).orderly
    rw [perform] at made orderly
    cases found : shared.publishers[index]? with
    | none =>
      rw [found] at made
      cases made
    | some publisher =>
      rw [found] at made orderly
      change offer ∈ (publisher.advance shared.bus index).2.offers at made
      have present := (orderly _ (List.mem_set (List.getElem?_eq_some_iff.mp found).1
        (publisher.advance shared.bus index).1.2)).not_gone
      rcases publisher.advance_cases shared.bus index with ⟨done, -⟩ |
        ⟨posting, id, acceptance, offered, -, -, full, -, told, -⟩ | ⟨returned, -⟩
      · rw [done] at made
        cases made
      · rw [offered] at made
        obtain rfl := List.mem_singleton.mp made
        refine decide_eq_true ?_
        cases acceptance with
        | queued => rfl
        | full => exact absurd room (Nat.not_lt_of_le (full rfl))
        | gone => exact absurd (told ▸ List.mem_append_right _ List.mem_cons_self) present
      · rw [returned] at made
        cases made

/-- A mailbox that has room for all that is published on its topics takes all that it is offered. -/
theorem ledger_eq_offered (sound : bus.Sound)
    (alive : ∀ topic, ∀ id ∈ bus.registered topic, bus.waiting? id ≠ none) (id : Nat)
    (empty : bus.queued id = [])
    (fits : (matching bus agendas id).length ≤ bus.capacity) :
    ledger bus agendas turns id = offered agendas turns bus id := by
  induction turns using List.reverseRecOn with
  | nil => rfl
  | append_singleton past turn inductionHypothesis =>
    have total := length_offered_le agendas (past ++ [turn]) sound alive id
    rw [offered, offers_concat, List.flatMap_append, List.length_append] at total
    rw [ledger, offered, offers_concat, List.flatMap_append, List.flatMap_append]
    refine congrArg₂ (· ++ ·) inductionHypothesis (List.flatMap_congr fun offer made => ?_)
    rw [Offer.accepted, Offer.to]
    by_cases here : offer.id = id
    · -- This offer is one more than the mailbox took, and what it holds now it took before.
      have one : 0 < (List.flatMap (Offer.to id)
          ((after bus agendas past).perform turn).2.offers).length := by
        refine List.length_pos_of_mem (a := offer.posting) (List.mem_flatMap.mpr ⟨offer, made, ?_⟩)
        rw [Offer.to, if_pos here]
        exact List.mem_cons_self
      have held := congrArg List.length (received_append_queued agendas past id empty)
      have before : (ledger bus agendas past id).length ≤ (offered agendas past bus id).length :=
        (ledger_sublist_offered agendas past id).length_le
      have soundPast := sound_after agendas past alive
      have taken : offer.taken = true := by
        refine taken_of_room soundPast made ?_
        rw [here, soundPast.capacity]
        rw [List.length_append, List.length_map] at held
        rw [offered] at before
        omega
      rw [taken]
      simp
    · rw [if_neg here, if_neg fun both => here both.2]

/-! ### What publications return -/

/-- The mailboxes that took a message, in that order. -/
def takers (bus : Bus Message) (index position : Nat) : List Nat :=
  (offers bus agendas turns).flatMap (Offer.taker index position)

theorem takers_concat (turn : Turn) (index position : Nat) :
    takers agendas (turns ++ [turn]) bus index position =
      takers agendas turns bus index position ++
        ((after bus agendas turns).perform turn).2.offers.flatMap (Offer.taker index position) := by
  rw [takers, offers_concat, List.flatMap_append]
  rfl

theorem exists_accounted (bus : Bus Message) {index : Nat} {agenda : List (String × Message)}
    (listed : agendas[index]? = some agenda) :
    ∃ publisher, (after bus agendas turns).publishers[index]? = some publisher ∧
      publisher.Accounted (results bus agendas turns index)
        (fun position => (takers agendas turns bus index position).length) agenda.length := by
  induction turns using List.reverseRecOn with
  | nil =>
    refine ⟨⟨agenda, 0, none⟩, ?_, ⟨rfl, rfl, fun _ _ => rfl, Nat.zero_add _⟩⟩
    show (agendas.map _)[index]? = _
    rw [List.getElem?_map, listed]
    rfl
  | append_singleton past turn inductionHypothesis =>
    obtain ⟨publisher, found, accounted⟩ := inductionHypothesis
    rw [after_concat]
    simp only [results_concat, takers_concat, List.length_append]
    rcases perform_cases (after bus agendas past) turn found with
      ⟨-, next, answer⟩ | ⟨-, same, foreign, silent⟩
    · rw [answer]
      exact ⟨_, next, accounted.advance (after bus agendas past).bus index⟩
    · refine ⟨publisher, same, ?_⟩
      have nothing : ((after bus agendas past).perform turn).2.result index = [] :=
        Answer.result_eq_nil silent
      have nobody (position : Nat) : ((after bus agendas past).perform turn).2.offers.flatMap
          (Offer.taker index position) = [] :=
        List.flatMap_eq_nil_iff.mpr fun offer made => if_neg fun all => foreign offer made all.2.1
      simpa only [nothing, nobody, List.append_nil, List.length_nil, Nat.add_zero] using accounted

section Progress

variable (alive : ∀ topic, ∀ id ∈ bus.registered topic, bus.waiting? id ≠ none)

include alive

/-- A publisher gets on in each of its turns, whoever else takes turns. -/
theorem remaining_after {index : Nat} {agenda : List (String × Message)}
    (listed : agendas[index]? = some agenda) {publisher : Publisher Message}
    (found : (after bus agendas turns).publishers[index]? = some publisher) :
    publisher.remaining bus.registered =
      Publisher.cost bus.registered agenda - turns.count (.proceed index) := by
  induction turns using List.reverseRecOn generalizing publisher with
  | nil =>
    have begun : (agendas.map fun agenda => (⟨agenda, 0, none⟩ : Publisher Message))[index]? =
        some publisher := found
    rw [List.getElem?_map, listed] at begun
    obtain rfl := Option.some.inj begun
    exact Publisher.remaining_of_not_begun agenda 0
  | append_singleton past turn inductionHypothesis =>
    obtain ⟨before, present, -⟩ := exists_accounted agendas past bus listed
    have earlier := inductionHypothesis present
    rw [after_concat] at found
    rw [List.count_append]
    rcases perform_cases (after bus agendas past) turn present with
      ⟨rfl, next, -⟩ | ⟨other, same, -⟩
    · obtain rfl := Option.some.inj (next.symm.trans found)
      rw [Publisher.remaining_advance (sound_after agendas past alive).lookup, earlier,
        List.count_singleton_self, Nat.sub_sub]
    · obtain rfl := Option.some.inj (same.symm.trans found)
      rw [List.count_eq_zero_of_not_mem (l := [turn]) (by simpa using Ne.symm other), earlier]
      rfl

/-- A publisher that takes as many turns as its publications need has all of them returned. -/
theorem length_results {index : Nat} {agenda : List (String × Message)}
    (listed : agendas[index]? = some agenda)
    (enough : Publisher.cost bus.registered agenda ≤ turns.count (.proceed index)) :
    (results bus agendas turns index).length = agenda.length := by
  obtain ⟨publisher, found, accounted⟩ := exists_accounted agendas turns bus listed
  have finished := remaining_after agendas turns alive listed found
  rw [Nat.sub_eq_zero_of_le enough] at finished
  have done := Publisher.agenda_of_remaining finished
  rw [accounted.results, List.length_map, List.length_range, ← accounted.length, done]
  rfl

end Progress

/-- Each mailbox stands among the takers of a message as often as the message among what the mailbox
took. -/
theorem count_takers (index position id : Nat) :
    (takers agendas turns bus index position).count id =
      (ledger bus agendas turns id).countP
        fun posting => posting.publisher = index ∧ posting.position = position := by
  rw [takers, ledger]
  induction offers bus agendas turns with
  | nil => rfl
  | cons offer rest inductionHypothesis =>
    rw [List.flatMap_cons, List.flatMap_cons, List.count_append, List.countP_append,
      inductionHypothesis, Offer.taker, Offer.accepted]
    by_cases took : offer.taken = true <;> by_cases here : offer.id = id <;>
      by_cases named : offer.posting.publisher = index ∧ offer.posting.position = position <;>
      simp [took, here, named]

section Taken

variable (sound : bus.Sound)
  (alive : ∀ topic, ∀ id ∈ bus.registered topic, bus.waiting? id ≠ none)

include sound alive

theorem nodup_ledger (id : Nat) : (ledger bus agendas turns id).Nodup :=
  (nodup_offered agendas turns sound alive id).sublist (ledger_sublist_offered agendas turns id)

theorem filter_ledger_sublist (index id : Nat) :
    ((ledger bus agendas turns id).filter fun posting => posting.publisher = index).Sublist
      ((matching bus agendas id).filter fun posting => posting.publisher = index) :=
  ((ledger_sublist_offered agendas turns id).filter _).trans
    (offered_isPrefix agendas turns sound alive index id).sublist

theorem registered_of_mem_ledger {id : Nat} {posting : Posting Message}
    (member : posting ∈ ledger bus agendas turns id) : id ∈ bus.registered posting.topic := by
  have matches' := offered_subset agendas turns sound alive id
    ((ledger_sublist_offered agendas turns id).subset member)
  exact of_decide_eq_true (List.mem_filter.mp matches').2

/-- No mailbox takes a message twice. -/
theorem countP_ledger_le_one (index position id : Nat) :
    (ledger bus agendas turns id).countP
      (fun posting => posting.publisher = index ∧ posting.position = position) ≤ 1 := by
  have once := (nodup_positions_matching bus agendas index id).sublist
    ((filter_ledger_sublist agendas turns sound alive index id).map (·.position))
  have count := List.nodup_iff_count_le_one.mp once position
  rw [List.count, List.countP_map, List.countP_filter] at count
  refine le_trans (List.countP_mono_left fun posting _ both => ?_) count
  simpa [and_comm] using both

/-- The takers of a message are the mailboxes that took it. -/
theorem length_takers (index position : Nat) :
    (takers agendas turns bus index position).length = taken bus agendas turns index position := by
  have counted (id : Nat) : (takers agendas turns bus index position).count id = _ :=
    count_takers agendas turns index position id
  rw [taken, List.countP_eq_length_filter]
  refine List.Perm.length_eq ((List.perm_ext_iff_of_nodup ?_ ?_).mpr fun id => ?_)
  · refine List.nodup_iff_count_le_one.mpr fun id => ?_
    rw [counted]
    exact countP_ledger_le_one agendas turns sound alive index position id
  · exact List.nodup_range.filter _
  · rw [← List.count_pos_iff, counted, List.countP_pos_iff, List.mem_filter, List.mem_range,
      List.any_eq_true]
    refine ⟨fun took => ⟨?_, took⟩, And.right⟩
    obtain ⟨posting, member, -⟩ := took
    exact (sound.registeredIssued _ _
      (registered_of_mem_ledger agendas turns sound alive member)).2

/-- What the publications of a publisher returned so far is how many mailboxes took each message. -/
theorem results_eq {index : Nat} {agenda : List (String × Message)}
    (listed : agendas[index]? = some agenda) :
    results bus agendas turns index =
      (List.range (results bus agendas turns index).length).map
        (taken bus agendas turns index) := by
  obtain ⟨publisher, -, accounted⟩ := exists_accounted agendas turns bus listed
  have told := accounted.results
  simp only [length_takers agendas turns sound alive] at told
  have length := congrArg List.length told
  rw [List.length_map, List.length_range] at length
  rw [length]
  exact told

/-- When all publications have returned, every message was offered to every mailbox of its topic. -/
theorem offered_of_returned (returned : ∀ index agenda, agendas[index]? = some agenda →
      (results bus agendas turns index).length = agenda.length) (id : Nat) :
    matching bus agendas id ⊆ offered agendas turns bus id := by
  refine fun _ => mem_of_parts (·.publisher) fun index => ?_
  rw [← offered_append_ahead agendas turns sound alive index id]
  have nothing : (after bus agendas turns).ahead bus index id = [] := by
    cases listed : agendas[index]? with
    | none =>
      have whole := offered_append_ahead agendas turns sound alive index id
      rw [filter_matching, listed] at whole
      exact (List.append_eq_nil_iff.mp whole).2
    | some agenda =>
      obtain ⟨publisher, found, accounted⟩ := exists_accounted agendas turns bus listed
      have all := returned index agenda listed
      rw [accounted.results, List.length_map, List.length_range] at all
      have done : publisher.agenda = [] := by
        rw [← List.length_eq_zero_iff]
        have length := accounted.length
        omega
      rw [ahead, found]
      show publisher.ahead bus.registered index id = []
      rw [Publisher.ahead, done]
  rw [nothing, List.append_nil]
  exact List.Subset.refl _

/-- When all publications have returned, a mailbox with room for all that is published on its topics
took all of it. -/
theorem ledger_perm_matching (returned : ∀ index agenda, agendas[index]? = some agenda →
      (results bus agendas turns index).length = agenda.length) (id : Nat)
    (empty : bus.queued id = []) (fits : (matching bus agendas id).length ≤ bus.capacity) :
    (ledger bus agendas turns id).Perm (matching bus agendas id) := by
  rw [ledger_eq_offered agendas turns sound alive id empty fits]
  exact (List.perm_ext_iff_of_nodup (nodup_offered agendas turns sound alive id)
    (nodup_matching bus agendas id)).mpr fun _ =>
      ⟨fun member => offered_subset agendas turns sound alive id member,
        fun member => offered_of_returned agendas turns sound alive returned id member⟩

end Taken

end Run

/-- Publications on a bus with empty mailboxes, none of which comes or goes and whose receivers are
all there, overlap in any way. Every mailbox takes nothing twice, only messages of topics that it is
registered under, and those of each publisher in the order of that publisher; its receiver is given
what it took, in that order. A mailbox that has room for all that is published on its topics takes
each of it once. A publication returns how many mailboxes took its message, and all publications of
a publisher return within a number of turns of that publisher that does not depend on the others. -/
theorem publications_interleaved (capacity : Nat) (past : List (Bus.Request Message))
    (agendas : List (List (String × Message))) (turns : List Turn)
    (empty : ∀ id, (Bus.after capacity past).queued id = [])
    (alive : ∀ topic, ∀ id ∈ (Bus.after capacity past).registered topic,
      (Bus.after capacity past).waiting? id ≠ none) :
    let bus := Bus.after capacity past
    let now := after bus agendas turns
    (∀ id,
      let took := ledger bus agendas turns id
      took.Nodup ∧
      received bus agendas turns id ++ now.bus.queued id = took.map (·.message) ∧
      (∀ posting ∈ took, id ∈ bus.registered posting.topic) ∧
      (∀ index, (took.filter fun posting => posting.publisher = index).Sublist
        ((matching bus agendas id).filter fun posting => posting.publisher = index)) ∧
      ((∀ index agenda, agendas[index]? = some agenda →
          (results bus agendas turns index).length = agenda.length) →
        (matching bus agendas id).length ≤ bus.capacity →
        took.Perm (matching bus agendas id))) ∧
    ∀ index agenda, agendas[index]? = some agenda →
      results bus agendas turns index =
        (List.range (results bus agendas turns index).length).map
          (taken bus agendas turns index) ∧
      (Publisher.cost bus.registered agenda ≤ turns.count (.proceed index) →
        (results bus agendas turns index).length = agenda.length) := by
  intro bus now
  have sound : bus.Sound := Bus.Sound.run capacity past
  refine ⟨fun id => ⟨nodup_ledger agendas turns sound alive id,
    received_append_queued agendas turns id (empty id),
    fun _ => registered_of_mem_ledger agendas turns sound alive,
    fun index => filter_ledger_sublist agendas turns sound alive index id,
    fun returned => ledger_perm_matching agendas turns sound alive returned id (empty id)⟩, ?_⟩
  exact fun index agenda listed => ⟨results_eq agendas turns sound alive listed,
    length_results agendas turns alive listed⟩

/-- Two publishers meet at two mailboxes of one topic: the first mailbox takes the message of the
one before that of the other, the second mailbox takes them the other way round. Both have all of
it, and both publications return two. -/
theorem opposite_orders :
    let past : List (Bus.Request Nat) := [.subscribe ["a"], .subscribe ["a"]]
    let bus := Bus.after 2 past
    let agendas := [[("a", 7)], [("a", 8)]]
    let turns : List Turn := [.proceed 0, .proceed 0, .proceed 1, .proceed 1, .proceed 1,
      .proceed 0, .receive 1, .proceed 1, .proceed 0]
    (∀ id, (ledger bus agendas turns id).Perm (matching bus agendas id)) ∧
    (ledger bus agendas turns 1).map (·.message) = [7, 8] ∧
    (ledger bus agendas turns 2).map (·.message) = [8, 7] ∧
    received bus agendas turns 1 = [7] ∧
    results bus agendas turns 0 = [2] ∧ results bus agendas turns 1 = [2] := by
  intro past bus agendas turns
  have empty (id : Nat) : bus.queued id = [] := by
    rw [Bus.queued_eq, Bus.waiting?]
    cases found : bus.mailbox? id with
    | none => rfl
    | some mailbox =>
      have member : mailbox ∈ [Mailbox.mk 1 [], Mailbox.mk 2 []] := List.mem_of_find?_eq_some found
      rcases List.mem_pair.mp member with rfl | rfl <;> rfl
  have alive (topic : String) (id : Nat) (listed : id ∈ bus.registered topic) :
      bus.waiting? id ≠ none := by
    have registered : bus.registered topic = if topic = "a" then [1, 2] else [] := by
      show (List.lookup topic [("a", [1, 2])]).getD [] = _
      by_cases same : topic = "a"
      · rw [if_pos same, same]
        rfl
      · rw [if_neg same, List.lookup_cons, beq_false_of_ne same]
        rfl
    rw [registered] at listed
    split at listed
    · rcases List.mem_pair.mp listed with rfl | rfl <;> decide
    · cases listed
  have returned (index : Nat) (agenda : List (String × Nat))
      (listed : agendas[index]? = some agenda) :
      (results bus agendas turns index).length = agenda.length := by
    obtain ⟨bound, rfl⟩ := List.getElem?_eq_some_iff.mp listed
    have each : ∀ index : Fin agendas.length,
        (results bus agendas turns index).length = (agendas.get index).length := by decide
    exact each ⟨index, bound⟩
  obtain ⟨mailboxes, -⟩ := publications_interleaved 2 past agendas turns empty alive
  refine ⟨fun id => (mailboxes id).2.2.2.2 returned ?_, by decide, by decide, by decide, by decide,
    by decide⟩
  exact (List.length_filter_le _ _).trans (by decide)

end SharedBus

end ServerMonitor
