import IrcServer.Proofs.Leaving
import IrcServer.Proofs.Registry

namespace IrcServer

/-! Who is sent what: the lines that the deliveries of a reaction come to for one client. -/

/-- The lines for one queue. -/
def linesTo (queue : QueueId) (deliveries : List Delivery) : List Line :=
  (deliveries.filter fun delivery => delivery.queue = queue).map Delivery.line

theorem linesTo_append (queue : QueueId) (first second : List Delivery) :
    linesTo queue (first ++ second) = linesTo queue first ++ linesTo queue second := by
  rw [linesTo, List.filter_append, List.map_append]
  rfl

theorem mem_linesTo {queue : QueueId} {deliveries : List Delivery} {line : Line} :
    line ∈ linesTo queue deliveries ↔
      ∃ delivery ∈ deliveries, delivery.queue = queue ∧ delivery.line = line := by
  simp [linesTo, and_assoc]

theorem linesTo_own (queue : QueueId) (lines : List Line) :
    linesTo queue (lines.map fun line => ⟨queue, line⟩) = lines := by
  induction lines with
  | nil => rfl
  | cons line rest inductionHypothesis => simp_all [linesTo]

theorem linesTo_other {queue other : QueueId} (differs : other ≠ queue) (lines : List Line) :
    linesTo queue (lines.map fun line => ⟨other, line⟩) = [] := by
  simp [linesTo, List.filter_eq_nil_iff, differs]

theorem relay_congr {left right : Server} (users : left.users = right.users) (nicks : List Text)
    (line : Line) : left.relay nicks line = right.relay nicks line := by
  unfold Server.relay
  rw [users]

theorem relay_cons (server : Server) (nick : Text) (rest : List Text) (line : Line) :
    server.relay (nick :: rest) line = server.relay [nick] line ++ server.relay rest line := by
  rw [← List.singleton_append, Server.relay, List.filterMap_append]
  rfl

theorem line_of_mem_relay {server : Server} {nicks : List Text} {line : Line} {queue : QueueId}
    {other : Line} (member : other ∈ linesTo queue (server.relay nicks line)) : other = line := by
  obtain ⟨delivery, relayed, _, rfl⟩ := mem_linesTo.mp member
  exact (Server.of_mem_relay relayed).1

namespace Registry

variable {profile : Profile} {server : Server} {roster : Roster} {number : Nat} {user : User}

theorem linesTo_relay_singleton (registry : Registry profile server roster)
    (here : roster number = some user) (nick : Text) (line : Line) :
    linesTo number (server.relay [nick] line) =
      if user.registered = true ∧ user.nick.fold = nick.fold then [line] else [] := by
  have queue := registry.numbered here
  cases found : server.users.find? nick with
  | none =>
      have others : ¬ (user.registered = true ∧ user.nick.fold = nick.fold) := by
        rintro ⟨registered, same⟩
        rw [registry.found here registered same] at found
        cases found
      rw [if_neg others]
      simp [Server.relay, found, linesTo]
  | some holder =>
      obtain ⟨there, registered, same⟩ := registry.listed.mp found
      by_cases one : holder.queue = number
      · rw [one, here] at there
        cases there
        rw [if_pos ⟨registered, same⟩]
        simp [Server.relay, found, linesTo, queue]
      · have others : ¬ (user.registered = true ∧ user.nick.fold = nick.fold) := by
          rintro ⟨known, folded⟩
          rw [registry.found here known folded] at found
          cases found
          exact one queue
        rw [if_neg others]
        simp [Server.relay, found, linesTo, one]

theorem reached (registry : Registry profile server roster) (here : roster number = some user)
    {nicks : List Text} {line other : Line}
    (member : other ∈ linesTo number (server.relay nicks line)) :
    user.registered = true ∧ user.nick.fold ∈ nicks.map Text.fold := by
  obtain ⟨delivery, relayed, queue, _⟩ := mem_linesTo.mp member
  obtain ⟨_, nick, named, holder, found, told⟩ := Server.of_mem_relay relayed
  obtain ⟨there, registered, same⟩ := registry.listed.mp found
  rw [told, queue, here] at there
  cases there
  exact ⟨registered, List.mem_map.mpr ⟨nick, named, same.symm⟩⟩

/-- What is sent to some nicknames reaches a client once if it is registered under one of them, and
not at all otherwise. -/
theorem linesTo_relay (registry : Registry profile server roster)
    (here : roster number = some user) {nicks : List Text}
    (distinct : (nicks.map Text.fold).Nodup) (line : Line) :
    linesTo number (server.relay nicks line) =
      if user.registered = true ∧ user.nick.fold ∈ nicks.map Text.fold then [line] else [] := by
  induction nicks with
  | nil => simp [Server.relay, linesTo]
  | cons nick rest inductionHypothesis =>
      obtain ⟨absent, distinctRest⟩ := List.nodup_cons.mp distinct
      rw [relay_cons, linesTo_append, registry.linesTo_relay_singleton here,
        inductionHypothesis distinctRest]
      by_cases first : user.nick.fold = nick.fold
      · simp [first, absent]
      · simp [first]

theorem linesTo_relay_absent (registry : Registry profile server roster)
    (absent : roster number = none) (nicks : List Text) (line : Line) :
    linesTo number (server.relay nicks line) = [] := by
  refine List.eq_nil_iff_forall_not_mem.mpr fun other member => ?_
  obtain ⟨delivery, relayed, queue, _⟩ := mem_linesTo.mp member
  obtain ⟨_, nick, _, holder, found, told⟩ := Server.of_mem_relay relayed
  obtain ⟨there, _, _⟩ := registry.listed.mp found
  rw [told, queue, absent] at there
  cases there

end Registry

/-! Who is told of a change in a channel. -/

theorem mem_nicks_iff {channel : Channel} {nick : Text} :
    nick.fold ∈ channel.nicks.map Text.fold ↔ channel.isMember nick = true := by
  rw [Channel.isMember, any_isNamed_iff, Channel.nicks, List.map_map, List.mem_map]
  rfl

theorem mem_others_iff {channel : Channel} {nick other : Text} :
    other.fold ∈ (channel.others nick).map Text.fold ↔
      channel.isMember other = true ∧ other.fold ≠ nick.fold := by
  rw [← mem_nicks_iff]
  constructor
  · intro told
    obtain ⟨name, member, same⟩ := List.mem_map.mp told
    obtain ⟨present, differs⟩ := List.mem_filter.mp member
    exact ⟨List.mem_map.mpr ⟨name, present, same⟩, same ▸ of_decide_eq_true differs⟩
  · rintro ⟨present, differs⟩
    obtain ⟨name, member, same⟩ := List.mem_map.mp present
    exact List.mem_map.mpr ⟨name, List.mem_filter.mpr ⟨member, by simp [same, differs]⟩, same⟩

/-- A new member is not among the others. -/
theorem others_append_self (channel : Channel) (nick : Text) (operator : Bool) :
    Channel.others { channel with members := channel.members ++ [⟨nick, operator⟩] } nick =
      channel.others nick := by
  simp [Channel.others, Channel.nicks]

theorem nicks_dropped (channel : Channel) (nick : Text) :
    (channel.dropped nick).nicks = channel.others nick := by
  rw [Channel.others, Channel.nicks, Channel.nicks, Channel.dropped, List.filter_map]
  rfl

theorem distinct_nicks {channel : Channel} (distinct : DistinctMembers channel.members) :
    (channel.nicks.map Text.fold).Nodup := by
  rw [Channel.nicks, List.map_map]
  exact distinct

theorem distinct_others {channel : Channel} (distinct : DistinctMembers channel.members)
    (nick : Text) : ((channel.others nick).map Text.fold).Nodup :=
  (distinct_nicks distinct).sublist (List.filter_sublist.map _)

theorem mem_distinctNames_iff {seen names : List Text} {key : Text} :
    key ∈ (distinctNames seen names).map Text.fold ↔ key ∈ names.map Text.fold ∧ key ∉ seen := by
  induction names generalizing seen with
  | nil => simp [distinctNames]
  | cons name rest inductionHypothesis =>
      by_cases same : key = name.fold
      · subst same
        by_cases old : name.fold ∈ seen <;> simp [distinctNames, inductionHypothesis, old]
      · by_cases old : name.fold ∈ seen <;> simp [distinctNames, inductionHypothesis, old, same]

theorem distinct_distinctNames (seen names : List Text) :
    ((distinctNames seen names).map Text.fold).Nodup := by
  induction names generalizing seen with
  | nil => exact List.nodup_nil
  | cons name rest inductionHypothesis =>
      rw [distinctNames]
      split
      · exact inductionHypothesis seen
      · refine List.nodup_cons.mpr ⟨fun again => ?_, inductionHypothesis _⟩
        exact (mem_distinctNames_iff.mp again).2 List.mem_cons_self

theorem mem_peersIn_iff {channels : List Channel} {nick other : Text} :
    other.fold ∈ (peersIn channels nick).map Text.fold ↔
      (∃ channel ∈ channels, channel.isMember other = true) ∧ other.fold ≠ nick.fold := by
  rw [peersIn, mem_distinctNames_iff, List.map_flatMap, List.mem_flatMap, List.mem_singleton]
  simp only [mem_nicks_iff]

theorem distinct_peersIn (channels : List Channel) (nick : Text) :
    ((peersIn channels nick).map Text.fold).Nodup :=
  distinct_distinctNames _ _

end IrcServer
