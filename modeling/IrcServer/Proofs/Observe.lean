import IrcServer.Proofs.Tracks

namespace IrcServer

/-! What an act of one client comes to for the others: each of them is told exactly of the changes
in the channels that it is in. -/

/-- A client beside the one that acts. -/
structure Beside (profile : Profile) (server : Server) (roster : Roster) (user : User)
    (number : Nat) (own : User) : Prop where
  consistent : Consistent profile server roster
  tidy : Tidy profile server roster
  here : roster user.queue = some user
  there : roster number = some own
  others : number ≠ user.queue

namespace Beside

variable {profile : Profile} {server : Server} {roster : Roster} {user own : User} {number : Nat}
  {message : Message} {reaction : Reaction} {view : View}

theorem legible (beside : Beside profile server roster user number own)
    (registered : user.registered = true) : user.Legible :=
  beside.consistent.legible beside.tidy beside.here registered

theorem differs (beside : Beside profile server roster user number own)
    (registered : user.registered = true) (known : own.registered = true) :
    own.nick.fold ≠ user.nick.fold :=
  beside.consistent.fold_ne beside.there beside.here beside.others registered known

theorem stays (beside : Beside profile server roster user number own) {present : Option User} :
    Function.update roster user.queue present number = some own := by
  rw [Function.update_of_ne beside.others, beside.there]

theorem not_isSelf (beside : Beside profile server roster user number own)
    (tracks : Tracks server own view) (registered : user.registered = true)
    (known : own.registered = true) : ¬ view.isSelf user.nick = true := by
  rw [View.isSelf_iff (tracks.nick known)]
  exact beside.differs registered known

theorem uncut_of_heard {heard : Prop} [Decidable heard] {line : Line}
    (uncut : ∀ other ∈ if heard then [line] else [], other.Uncut) (hears : heard) : line.Uncut := by
  rw [if_pos hears] at uncut
  exact uncut line List.mem_cons_self

theorem joined (beside : Beside profile server roster user number own)
    (tracks : Tracks server own view) (registered : user.registered = true) {name : Text}
    {channel entered : Channel} (valid : ChannelName.isValid profile.channelLimit name = true)
    (listed : (server.channels.find? name).getD (.new name) = channel)
    (word : channel.name.IsWord) (absent : channel.isMember user.nick = false)
    (made : entered = { channel with
      members := channel.members ++ [⟨user.nick, (server.channels.find? name).isNone⟩] })
    (uncut : ∀ line ∈ linesTo number (Handler.entered name entered server user).relayed,
      line.Uncut) :
    Tracks (server.setChannel name entered) own
      (view.after (linesTo number (Handler.entered name entered server user).relayed)) := by
  obtain ⟨_, _, same, distinct, _⟩ := beside.consistent.joinable valid listed
  have registry : Registry profile (server.setChannel name entered) roster :=
    beside.consistent.registry.frame rfl rfl fun _ contained => contained
  have distinctEntered : DistinctMembers entered.members := by
    rw [made]
    exact distinct.append absent
  have spelled : entered.name = channel.name := by rw [made]
  have lines : linesTo number (Handler.entered name entered server user).relayed = _ :=
    registry.linesTo_relay beside.there (distinct_others distinctEntered user.nick)
      (user.line .join [.word entered.name] none)
  rw [lines] at uncut ⊢
  refine tracks.told (Room.add [⟨user.nick, false⟩]) same ?_ ?_ fun hears => ?_
  · rw [made]
    exact Server.room?_joined listed (beside.differs registered)
  · intro room found
    obtain ⟨present, known, registeredOwn, member, _⟩ := Server.room?_eq_some_iff.mp found
    rw [known, Option.getD_some] at listed
    refine ⟨registeredOwn, mem_others_iff.mpr ⟨?_, beside.differs registered registeredOwn⟩⟩
    rw [made, Channel.isMember_append]
    exact .inl (listed ▸ member)
  · have heard := uncut_of_heard uncut hears
    rw [spelled] at heard ⊢
    rw [(beside.legible registered).news_join word heard, View.hear,
      if_neg (beside.not_isSelf tracks registered hears.1)]

theorem parted (beside : Beside profile server roster user number own)
    (tracks : Tracks server own view) (registered : user.registered = true) {name reason : Text}
    {channel : Channel} (found : server.channels.find? name = some channel)
    (uncut : ∀ line ∈ linesTo number ((server.leaveChannel name user.nick).relay
      (channel.leave user.nick).2.nicks (Handler.partLine user channel.name reason)), line.Uncut) :
    Tracks (server.leaveChannel name user.nick) own
      (view.after (linesTo number ((server.leaveChannel name user.nick).relay
        (channel.leave user.nick).2.nicks (Handler.partLine user channel.name reason)))) := by
  have sound := beside.consistent.sound found
  have same : channel.name.fold = name.fold := beside.consistent.keyed.fold_eq found
  have registry : Registry profile (server.leaveChannel name user.nick) roster :=
    beside.consistent.registry.frame rfl rfl fun _ contained => contained
  have distinct : DistinctMembers (channel.dropped user.nick).members := sound.distinct.filter _
  have lines := registry.linesTo_relay beside.there (distinct_nicks distinct)
    (Handler.partLine user channel.name reason)
  rw [Channel.leave_snd sound.distinct, lines] at uncut ⊢
  refine tracks.told (Room.drop user.nick) same
    (beside.consistent.room?_left (beside.differs registered)) ?_ fun hears => ?_
  · intro room known
    obtain ⟨present, listed, registeredOwn, member, _⟩ := Server.room?_eq_some_iff.mp known
    cases found.symm.trans listed
    refine ⟨registeredOwn, mem_nicks_iff.mpr ((Channel.isMember_dropped _ _ _).mpr ?_)⟩
    exact ⟨member, beside.differs registered registeredOwn⟩
  · have word := beside.consistent.name_isWord beside.tidy found
    rw [(beside.legible registered).news_part word (uncut_of_heard uncut hears), View.hear,
      if_neg (beside.not_isSelf tracks registered hears.1)]

theorem changed (beside : Beside profile server roster user number own)
    (tracks : Tracks server own view) (registered : user.registered = true) {name : Text}
    {channel : Channel} (found : server.channels.find? name = some channel)
    {change : Mode.Change} (present : channel.isMember change.nick = true)
    (uncut : ∀ line ∈ linesTo number (server.relay
      ((channel.setOperator change.nick change.enabled).2.others user.nick)
      (Handler.changeLine user channel change)), line.Uncut) :
    Tracks (server.setChannel name (channel.setOperator change.nick change.enabled).2) own
      (view.after (linesTo number (server.relay
        ((channel.setOperator change.nick change.enabled).2.others user.nick)
        (Handler.changeLine user channel change)))) := by
  have distinct := (beside.consistent.sound found).distinct
  have same : channel.name.fold = name.fold := beside.consistent.keyed.fold_eq found
  have distinctChanged :
      DistinctMembers (channel.setOperator change.nick change.enabled).2.members :=
    Channel.distinct_setOperator distinct _ _
  have lines := beside.consistent.registry.linesTo_relay beside.there
    (distinct_others distinctChanged user.nick) (Handler.changeLine user channel change)
  rw [lines] at uncut ⊢
  refine tracks.told (Room.setOperator change.nick change.enabled) same
    (beside.consistent.room?_changed found change own) ?_ fun hears => ?_
  · intro room known
    obtain ⟨_, listed, registeredOwn, member, _⟩ := Server.room?_eq_some_iff.mp known
    cases found.symm.trans listed
    refine ⟨registeredOwn, mem_others_iff.mpr ⟨?_, beside.differs registered registeredOwn⟩⟩
    exact (Channel.isMember_setOperator distinct _ _ _).mpr member
  · have word := beside.consistent.name_isWord beside.tidy found
    have target := beside.consistent.target_isWord found present
    rw [(beside.legible registered).news_mode word target (uncut_of_heard uncut hears), View.hear]

theorem renamed (beside : Beside profile server roster user number own)
    (tracks : Tracks server own view) (registered : user.registered = true) {nick : Text}
    (valid : Nickname.isValid profile.nickLimit nick = true)
    (free : server.heldByOther user nick = false)
    (uncut : ∀ line ∈ linesTo number ((server.rename user nick).relay
      (peersIn (server.renamedChannels user nick) nick) (user.line .nick [.word nick] none)),
      line.Uncut) :
    Tracks (server.rename user nick) own
      (view.after (linesTo number ((server.rename user nick).relay
        (peersIn (server.renamedChannels user nick) nick)
        (user.line .nick [.word nick] none)))) := by
  have consistent := beside.consistent
  have registry := consistent.registry.rename beside.here registered valid free
  have lines := registry.linesTo_relay beside.stays
    (distinct_peersIn (server.renamedChannels user nick) nick) (user.line .nick [.word nick] none)
  have member : ∀ name channel, server.channels.find? name = some channel →
      own.registered = true → ((channel.rename user.nick nick).2.isMember own.nick = true ↔
        channel.isMember own.nick = true) := fun _ _ found known =>
    consistent.isMember_renamed_other beside.there beside.here beside.others registered free found
      known
  rw [lines] at uncut ⊢
  refine tracks.toldAll (Room.rename user.nick nick) (consistent.room?_renamed rfl member) ?_
    fun hears => ?_
  · intro label room found deaf
    refine Room.rename_of_absent (Server.not_mem_of_apart ?_ found) nick
    intro name channel listed known present
    refine eq_false_of_ne_true fun shared => deaf ⟨known, ?_⟩
    have new : own.nick.fold ≠ nick.fold := by
      intro same
      have holder := consistent.registry.found beside.there known same
      have one := consistent.registry.eq_of_not_heldByOther beside.here free holder
      exact beside.differs registered known (by rw [one])
    refine mem_peersIn_iff.mpr ⟨⟨(channel.rename user.nick nick).2, ?_, ?_⟩, new⟩
    · exact List.mem_map.mpr ⟨channel,
        List.mem_filter.mpr ⟨Directory.mem_values_of_find? listed, shared⟩, rfl⟩
    · exact (member name channel listed known).mpr present
  · have word := Nickname.isWord_of_isValid valid
    rw [(beside.legible registered).news_nick word (uncut_of_heard uncut hears), View.hear,
      if_neg (beside.not_isSelf tracks registered hears.1)]

/-- The others see a client leave, if they shared a channel with it. -/
theorem departed (beside : Beside profile server roster user.settled number own)
    (tracks : Tracks server own view) (error : Option Text)
    (uncut : ∀ line ∈ linesTo number (server.depart user error).2, line.Uncut) :
    Tracks (server.depart user error).1 own
      (view.after (linesTo number (server.depart user error).2)) := by
  by_cases registered : user.registered = true
  · have consistent := beside.consistent
    have legible : user.Legible :=
      ⟨(beside.legible registered).single, (beside.legible registered).plain⟩
    have stays : Function.update roster user.queue none number = some own := beside.stays
    have here : roster user.queue = some user.settled := beside.here
    have registry := consistent.registry.depart here error
    have told : (server.depart user error).2 = (server.depart user error).1.relay
        (peersIn (server.channelsOf user.nick) user.nick)
        (user.line .quit [] (some (Server.departureReason user error))) := by
      rw [Server.depart, if_pos registered]
      exact relay_congr rfl _ _
    have lines := registry.linesTo_relay stays
      (distinct_peersIn (server.channelsOf user.nick) user.nick)
      (user.line .quit [] (some (Server.departureReason user error)))
    have differs : own.registered = true → own.nick.fold ≠ user.nick.fold :=
      beside.differs registered
    rw [told, lines] at uncut
    rw [told, lines]
    refine tracks.toldAll (Room.drop user.nick)
      (consistent.room?_departed registered differs error) ?_ fun hears => ?_
    · intro label room found deaf
      refine Room.drop_of_absent (Server.not_mem_of_apart ?_ found)
      intro name channel listed known present
      refine eq_false_of_ne_true fun shared => deaf ⟨known, mem_peersIn_iff.mpr ?_⟩
      have member := Directory.mem_values_of_find? listed
      exact ⟨⟨channel, Server.mem_channelsOf_iff.mpr ⟨member, shared⟩, present⟩, differs known⟩
    · rw [legible.news_quit (uncut_of_heard uncut hears), View.hear]
  · rw [Server.depart_of_unregistered (eq_false_of_ne_true registered)]
    exact tracks.stay (fun known => ⟨known, rfl⟩) fun _ => rfl

theorem observe (beside : Beside profile server roster user number own)
    (tracks : Tracks server own view) (said : Event.Tidy profile (.said user.queue message))
    (act : Act message server user reaction)
    (uncut : ∀ line ∈ linesTo number reaction.relayed, line.Uncut) :
    Tracks reaction.server own (view.after (linesTo number reaction.relayed)) := by
  have consistent := beside.consistent
  have profileEq := consistent.registry.profileEq
  have later := consistent.act beside.here act
  have laterTidy := beside.tidy.act beside.here said act
  have silent : ∀ {after : Server}, after.channels = server.channels → Tracks after own view :=
    fun channels => tracks.stay (fun known => ⟨known, rfl⟩) fun name =>
      Server.room?_of_channels channels own name
  cases act with
  | named | introduced | enrolled => exact silent rfl
  | marked | empowered => exact silent (Server.refresh_channels _ _)
  | still talk =>
      rw [View.after_idle tracks.settled (idle_of_talk beside.legible talk uncut)]
      exact tracks
  | @joined name channel _ _ registered valid listed _ absent =>
      have found := server.find?_setChannel_self name { channel with
        members := channel.members ++ [⟨user.nick, (server.channels.find? name).isNone⟩] }
      have word := later.name_isWord laterTidy found
      exact beside.joined tracks registered (profileEq ▸ valid) listed word absent rfl uncut
  | parted _ registered found => exact beside.parted tracks registered found uncut
  | changed _ registered found present =>
      exact beside.changed tracks registered found present uncut
  | titled _ registered found =>
      rw [View.after_idle tracks.settled]
      · exact tracks.stay (fun known => ⟨known, rfl⟩) (Server.room?_titled found _ own)
      · intro line member
        have heard := uncut line member
        rw [line_of_mem_relay member] at heard ⊢
        exact .inl ((beside.legible registered).news_other (.inr (.inr rfl)) heard)
  | renamed _ registered valid _ free =>
      exact beside.renamed tracks registered (profileEq ▸ valid) free uncut

theorem act (beside : Beside profile server roster user number own)
    (said : Event.Tidy profile (.said user.queue message)) (act : Act message server user reaction) :
    Beside profile reaction.server (Function.update roster user.queue (some reaction.user))
      reaction.user number own := by
  have queue := act.samePerson.1
  refine ⟨beside.consistent.act beside.here act, beside.tidy.act beside.here said act, ?_,
    beside.stays, ?_⟩
  · rw [queue, Function.update_self]
  · rw [queue]
    exact beside.others

/-- A view follows a whole reaction to a message of somebody else. -/
theorem observe_acts (beside : Beside profile server roster user number own)
    (tracks : Tracks server own view) (said : Event.Tidy profile (.said user.queue message))
    (acts : Acts message server user reaction)
    (uncut : ∀ line ∈ linesTo number reaction.relayed, line.Uncut) :
    Tracks reaction.server own (view.after (linesTo number reaction.relayed)) := by
  induction acts generalizing roster view with
  | quit => exact tracks
  | last act => exact beside.observe tracks said act uncut
  | next act _ inductionHypothesis =>
      dsimp only at uncut ⊢
      rw [linesTo_append] at uncut ⊢
      obtain ⟨first, rest⟩ := List.forall_mem_append.mp uncut
      have saidNext := act.samePerson.1 ▸ said
      rw [View.after_append]
      exact inductionHypothesis (beside.act said act) (beside.observe tracks said act first)
        saidNext rest

/-- A client stays beside another that has been answered, whether or not that one leaves. -/
theorem acts (beside : Beside profile server roster user number own)
    (said : Event.Tidy profile (.said user.queue message)) (acts : Acts message server user reaction)
    (staying : user.quitReason = none) :
    Beside profile reaction.server (Function.update roster user.queue (some reaction.user.settled))
      reaction.user.settled number own where
  consistent := (Consistent.kept profile (Event.Tidy profile)).acts said acts beside.consistent
    beside.here staying
  tidy := (Tidy.kept profile).acts said acts beside.tidy beside.here staying
  here := by
    rw [← acts.queue]
    exact Function.update_self _ _ _
  there := beside.stays
  others := by
    intro same
    exact beside.others (same.trans acts.queue)

end Beside

end IrcServer
