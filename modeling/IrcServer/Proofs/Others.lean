import IrcServer.Proofs.Departure

namespace IrcServer

/-! What a message leaves of the others in a channel.

A channel before a message is compared with the channel of the same name after it.  The members
besides the client itself are the part that it has in common whatever the client does: it is there
after every act, after all of them, and after the client has gone. -/

/-- The member is the client itself. -/
def Member.isOwn (who : Option User) (member : Member) : Bool :=
  who.any fun user => user.registered && member.key = user.nick.fold

/-- The members of a channel, if there is one, without the client. -/
def besides (who : Option User) : Option Channel → List Member
  | none => []
  | some channel => channel.members.filter fun member => !member.isOwn who

section Besides

variable {user : User} {channel : Channel}

theorem besides_nobody (channel : Channel) : besides none (some channel) = channel.members :=
  List.filter_eq_self.mpr fun _ _ => rfl

/-- A client that is not registered is in no channel. -/
theorem besides_unregistered (unregistered : user.registered = false) (place : Option Channel) :
    besides (some user) place = besides none place := by
  cases place with
  | none => rfl
  | some channel =>
      refine List.filter_congr fun member _ => ?_
      simp [Member.isOwn, unregistered]

theorem besides_registered (registered : user.registered = true) (channel : Channel) :
    besides (some user) (some channel) = (channel.dropped user.nick).members := by
  refine List.filter_congr fun member _ => ?_
  simp [Member.isOwn, registered]

theorem besides_absent (absent : channel.isMember user.nick = false) :
    besides (some user) (some channel) = channel.members := by
  refine List.filter_eq_self.mpr fun member present => ?_
  have differs : member.key ≠ user.nick.fold := fun same =>
    any_isNamed_eq_false_iff.mp absent (List.mem_map.mpr ⟨member, present, same⟩)
  simp [Member.isOwn, differs]

/-- Another name in the same place leaves the others where they are. -/
theorem besides_renamed (registered : user.registered = true)
    (distinct : DistinctMembers channel.members) {nick : Text}
    (free : ∀ member ∈ channel.members, member.key = nick.fold → member.key = user.nick.fold) :
    besides (some (user.setNick nick)) (some (channel.rename user.nick nick).2) =
      besides (some user) (some channel) := by
  have stays : ∀ member ∈ channel.members,
      (!(if member.key = user.nick.fold then { member with nick } else member).isOwn
        (some (user.setNick nick))) = !member.isOwn (some user) := by
    intro member present
    have named : (user.setNick nick).nick = nick := rfl
    simp only [Member.isOwn, Option.any_some, named]
    split
    · rename_i own
      have same : member.nick.fold = user.nick.fold := own
      simp [Member.key, same, User.setNick, registered]
    · rename_i other
      have apart : member.key ≠ nick.fold := fun same => other (free member present same)
      simp [other, apart]
  rw [Channel.rename_snd distinct, besides, besides, List.filter_map,
    List.filter_congr (q := fun member => !member.isOwn (some user)) stays]
  refine (List.map_congr_left fun member kept => ?_).trans (List.map_id _)
  refine if_neg fun own => ?_
  have other := (List.mem_filter.mp kept).2
  simp [Member.isOwn, registered, own] at other

/-- Flags do not move anybody. -/
theorem besides_setOperator (distinct : DistinctMembers channel.members) (who : Option User)
    (nick : Text) (operator : Bool) :
    (besides who (some (channel.setOperator nick operator).2)).map Member.nick =
      (besides who (some channel)).map Member.nick := by
  have sameNick : ∀ member : Member,
      (if member.key = nick.fold then { member with operator } else member).nick =
        member.nick := by
    intro member
    split <;> rfl
  have sameOwn : ∀ member ∈ channel.members,
      (!(if member.key = nick.fold then { member with operator } else member).isOwn who) =
        !member.isOwn who := by
    intro member _
    rw [Member.isOwn, Member.isOwn, Member.key, sameNick, Member.key]
  rw [Channel.setOperator_snd distinct, besides, besides, List.filter_map,
    List.filter_congr (q := fun member => !member.isOwn who) sameOwn, List.map_map]
  exact List.map_congr_left fun member _ => sameNick member

end Besides

/-- What a change of a channel leaves alone, seen without the client that makes it. -/
structure OthersKept (verb : Verb) (who later : Option User) (before after : Option Channel) :
    Prop where
  nicks : (besides later after).map Member.nick = (besides who before).map Member.nick
  flags : verb ≠ .command .mode → besides later after = besides who before
  same : ∀ {old new}, before = some old → after = some new →
    new.name = old.name ∧ (verb ≠ .command .topic → new.topic = old.topic)

namespace OthersKept

variable {verb : Verb} {who mid later : Option User} {before between after : Option Channel}

theorem of_besides (others : besides later after = besides who before)
    (same : ∀ {old new}, before = some old → after = some new →
      new.name = old.name ∧ new.topic = old.topic) :
    OthersKept verb who later before after :=
  ⟨congrArg (List.map Member.nick) others, fun _ => others,
    fun found known => ⟨(same found known).1, fun _ => (same found known).2⟩⟩

theorem of_absent (others : besides later after = []) : OthersKept verb who later none after :=
  of_besides others fun found => by cases found

theorem vanished (others : besides who before = []) : OthersKept verb who later before none :=
  of_besides others.symm fun _ known => by cases known

theorem unchanged (others : besides later before = besides who before) :
    OthersKept verb who later before before :=
  of_besides others fun found known => by
    cases found.symm.trans known
    exact ⟨rfl, rfl⟩

theorem refl (verb : Verb) (who : Option User) (before : Option Channel) :
    OthersKept verb who who before before :=
  unchanged rfl

/-- A channel that is gone meanwhile must not come back. -/
theorem trans (first : OthersKept verb who mid before between)
    (second : OthersKept verb mid later between after)
    (passes : between = none → before = none ∨ after = none) :
    OthersKept verb who later before after := by
  refine ⟨second.nicks.trans first.nicks, fun verb => (second.flags verb).trans (first.flags verb),
    fun {old new} found known => ?_⟩
  cases middle : between with
  | none => rcases passes middle with none | none <;> simp_all
  | some channel =>
      obtain ⟨name, topic⟩ := first.same found middle
      obtain ⟨nameAfter, topicAfter⟩ := second.same middle known
      exact ⟨nameAfter.trans name, fun verb => (topicAfter verb).trans (topic verb)⟩

/-- A departure changes no flag and no topic. -/
theorem of_quit (kept : OthersKept (.command .quit) who later before after) :
    OthersKept verb who later before after :=
  of_besides (kept.flags (by decide)) fun found known =>
    ⟨(kept.same found known).1, (kept.same found known).2 (by decide)⟩

end OthersKept

namespace Act

variable {profile : Profile} {message : Message} {server : Server} {user : User}
  {roster : Roster} {reaction : Reaction}

/-- Channels are opened by JOIN and given up by PART. -/
theorem listed (act : Act message server user reaction) (label : Text) :
    (server.channels.find? label = none →
        reaction.server.channels.find? label = none ∨ message.verb = .command .join) ∧
      (reaction.server.channels.find? label = none →
        server.channels.find? label = none ∨ message.verb = .command .part) := by
  cases act with
  | still | named | introduced | enrolled => exact ⟨.inl, .inl⟩
  | marked | empowered =>
      dsimp only
      rw [Server.refresh_channels]
      exact ⟨.inl, .inl⟩
  | joined asked =>
      refine ⟨fun _ => .inr asked, fun gone => .inl ?_⟩
      dsimp only [Handler.entered] at gone
      rw [Server.find?_setChannel] at gone
      split at gone
      · cases gone
      · exact gone
  | parted asked =>
      refine ⟨fun absent => .inl ?_, fun _ => .inr asked⟩
      exact Server.find?_leaveChannel_of_none absent
  | changed _ _ found | titled _ _ found =>
      refine ⟨fun absent => .inl ?_, fun gone => .inl ?_⟩
      · rw [Server.find?_setChannel, if_neg, absent]
        intro same
        rw [Directory.find?_congr same, found] at absent
        cases absent
      · rw [Server.find?_setChannel] at gone
        split at gone
        · cases gone
        · exact gone
  | renamed =>
      simp only [Server.rename, Directory.find?_map, Option.map_eq_none_iff]
      exact ⟨.inl, .inl⟩

/-- A channel that is put in the place of another. -/
theorem othersKept_setChannel {name : Text} {channel : Channel} {verb : Verb} {who : Option User}
    {label : Text}
    (kept : OthersKept verb who who (server.channels.find? name) (some channel)) :
    OthersKept verb who who (server.channels.find? label)
      ((server.setChannel name channel).channels.find? label) := by
  rw [Server.find?_setChannel]
  split
  · rename_i same
    rw [Directory.find?_congr same]
    exact kept
  · exact .refl _ _ _

/-- A channel that its client leaves, and that is given up if nobody else is in it. -/
theorem othersKept_without {verb : Verb} {limit : Nat} {channel : Channel}
    (registered : user.registered = true) (sound : channel.Sound limit roster) :
    OthersKept verb (some user) (some user) (some channel) (channel.without user.nick) := by
  have others := besides_registered registered channel
  rw [Channel.without_eq sound.distinct sound.inhabited]
  split
  · rename_i emptied
    exact .vanished (others.trans emptied)
  · refine .of_besides ?_ fun same known => ?_
    · rw [besides_registered registered, others]
      simp [Channel.dropped]
    · cases same
      cases known
      exact ⟨rfl, rfl⟩

theorem othersKept (act : Act message server user reaction)
    (consistent : Consistent profile server roster) (here : roster user.queue = some user)
    (label : Text) :
    OthersKept message.verb (some user) (some reaction.user) (server.channels.find? label)
      (reaction.server.channels.find? label) := by
  cases act with
  | still => exact .refl _ _ _
  | marked | empowered =>
      dsimp only
      rw [Server.refresh_channels]
      exact .unchanged rfl
  | @named nick _ unregistered =>
      have renamed : (user.setNick nick).registered = false := unregistered
      refine .unchanged ?_
      rw [besides_unregistered unregistered, besides_unregistered renamed]
  | @introduced realname _ _ _ _ unregistered =>
      have given : User.registered
          { user with nick? := none, username? := some (message.param 0), realname } = false :=
        unregistered
      refine .unchanged ?_
      rw [besides_unregistered unregistered, besides_unregistered given]
  | @enrolled nick _ given unregistered _ nickGiven _ free =>
      -- A name that nobody holds is the name of no member.
      have named : User.nick { given with registered := true } = nick := by
        rw [User.nick, nickGiven, Option.getD_some]
      refine .unchanged ?_
      rw [besides_unregistered unregistered]
      cases found : server.channels.find? label with
      | none => rfl
      | some channel =>
          have absent := consistent.isMember_free free found
          rw [besides_nobody]
          exact besides_absent (named.symm ▸ absent)
  | @joined name channel _ _ registered _ listed _ absent =>
      refine othersKept_setChannel ?_
      have others : besides (some user)
          (some { channel with
            members := channel.members ++ [⟨user.nick, (server.channels.find? name).isNone⟩] }) =
          besides (some user) (some channel) := by
        simp [besides, List.filter_append, Member.isOwn, Member.key, registered]
      cases found : server.channels.find? name with
      | none =>
          rw [found] at listed others
          subst listed
          exact .of_absent others
      | some old =>
          rw [found] at listed others
          cases listed
          refine .of_besides others fun same known => ?_
          cases same
          cases known
          exact ⟨rfl, rfl⟩
  | @parted reason name channel _ registered found =>
      rw [Server.find?_leaveChannel consistent.keyed]
      split
      · rename_i same
        rw [Directory.find?_congr same, found]
        exact othersKept_without registered (consistent.sound found)
      · exact .refl _ _ _
  | @changed change channel asked _ found =>
      refine othersKept_setChannel ?_
      rw [found]
      refine ⟨besides_setOperator (consistent.sound found).distinct _ _ _,
        fun other => absurd asked other, fun same known => ?_⟩
      cases same
      cases known
      exact ⟨rfl, fun _ => rfl⟩
  | titled asked _ found =>
      refine othersKept_setChannel ?_
      rw [found]
      refine ⟨rfl, fun _ => rfl, fun same known => ?_⟩
      cases same
      cases known
      exact ⟨rfl, fun other => absurd asked other⟩
  | renamed _ registered _ _ free =>
      simp only [Server.rename, Directory.find?_map]
      cases found : server.channels.find? label with
      | none => exact .of_absent rfl
      | some channel =>
          have distinct := (consistent.sound found).distinct
          refine .of_besides (besides_renamed registered distinct fun member present =>
            consistent.free_in_channel here free found present) fun same known => ?_
          cases same
          cases known
          exact ⟨rfl, rfl⟩

end Act

namespace Acts

variable {profile : Profile} {message : Message} {server : Server} {user : User}
  {roster : Roster} {reaction : Reaction}

theorem opened (acts : Acts message server user reaction) {label : Text}
    (absent : server.channels.find? label = none) :
    reaction.server.channels.find? label = none ∨ message.verb = .command .join := by
  induction acts with
  | quit => exact .inl absent
  | last act => exact (act.listed label).1 absent
  | next act _ inductionHypothesis =>
      rcases (act.listed label).1 absent with still | asked
      · exact inductionHypothesis still
      · exact .inr asked

theorem othersKept (acts : Acts message server user reaction)
    (consistent : Consistent profile server roster) (here : roster user.queue = some user)
    (label : Text) :
    OthersKept message.verb (some user) (some reaction.user) (server.channels.find? label)
      (reaction.server.channels.find? label) := by
  induction acts generalizing roster with
  | quit => exact .unchanged rfl
  | last act => exact act.othersKept consistent here label
  | @next server user first rest act acts inductionHypothesis =>
      have later := inductionHypothesis (consistent.act here act)
        (by rw [act.samePerson.1, Function.update_self])
      refine (act.othersKept consistent here label).trans later fun gone => ?_
      rcases (act.listed label).2 gone with absent | part
      · exact .inl absent
      · rcases acts.opened gone with still | join
        · exact .inr still
        · cases part.symm.trans join

end Acts

namespace Network

variable {profile : Profile} {network : Network} {number : Nat} {client : Client}

/-- Nobody but the client that goes leaves a channel. -/
theorem Parting.othersKept (parting : Parting profile network number client)
    (error : Option Text) (label : Text) :
    OthersKept (.command .quit) (some client.user) none (network.server.channels.find? label)
      ((network.server.depart client.user error).1.channels.find? label) := by
  rw [Server.channels_depart parting.consistent.keyed]
  split
  · rename_i registered
    rw [Directory.find?_filterMap]
    cases found : network.server.channels.find? label with
    | none => exact .of_absent rfl
    | some channel =>
        have sound := parting.consistent.sound found
        refine (Act.othersKept_without registered sound).trans (.unchanged ?_) .inr
        rw [Channel.without_eq sound.distinct sound.inhabited]
        split
        · rfl
        · have gone : (channel.dropped client.user.nick).isMember client.user.nick = false :=
            eq_false_of_ne_true fun present =>
              ((Channel.isMember_dropped _ _ _).mp present).2 rfl
          rw [besides_nobody, besides_absent gone]
  · rename_i unregistered
    exact .unchanged (besides_unregistered (eq_false_of_ne_true unregistered) _).symm

end Network

end IrcServer
