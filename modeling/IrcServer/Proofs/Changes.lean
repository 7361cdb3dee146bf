import IrcServer.Proofs.Consistent

namespace IrcServer

/-! What MODE and TOPIC change, and who may.

Here the parameters of the message count: which channel they name, and for a MODE whose flag. -/

namespace Mode

theorem of_validate {items : List (Except Fault Change)} {changes : List Change}
    (valid : validate items = .ok changes) : ∀ change ∈ changes, .ok change ∈ items := by
  induction items generalizing changes with
  | nil =>
      cases valid
      exact fun _ member => absurd member List.not_mem_nil
  | cons item rest inductionHypothesis =>
      cases item with
      | error fault => cases valid
      | ok first =>
          rw [validate] at valid
          split at valid
          · cases valid
          · rename_i others known
            cases valid
            intro change member
            rcases List.mem_cons.mp member with rfl | later
            · exact List.mem_cons_self
            · exact List.mem_cons_of_mem _ (inductionHypothesis known change later)

theorem nick_of_changesOf {letters : List Letter} {nicks : List Text} {change : Change}
    (asked : .ok change ∈ changesOf letters nicks) : change.nick ∈ nicks := by
  induction letters generalizing nicks with
  | nil => cases asked
  | cons letter rest inductionHypothesis =>
      unfold changesOf at asked
      split at asked
      · split at asked
        · rcases List.mem_cons.mp asked with wrong | later
          · cases wrong
          · exact inductionHypothesis later
        · rcases List.mem_cons.mp asked with first | later
          · cases first
            exact List.mem_cons_self
          · exact List.mem_cons_of_mem _ (inductionHypothesis later)
      · rcases List.mem_cons.mp asked with wrong | later
        · cases wrong
        · exact inductionHypothesis later

/-- Who is to gain or lose the flag is among the parameters. -/
theorem nick_of_channelChanges {modes : Text} {params : List Text} {change : Change}
    (asked : .ok change ∈ channelChanges modes params) : change.nick ∈ params :=
  (List.mem_filter.mp (nick_of_changesOf asked)).1

end Mode

namespace Handler

variable {message : Message} {server : Server} {user : User}

/-- A TOPIC with a text of a member sets the topic, and no other changes anything. -/
theorem handle_topic (asked : message.verb = .command .topic) :
    (handle message server user).server = server ∨
      ∃ title channel, message.params[1]? = some title ∧
        server.channels.find? (message.param 0) = some channel ∧ user.registered = true ∧
        channel.isMember user.nick = true ∧
        (handle message server user).server =
          server.setChannel (message.param 0) (channel.setTopic title) := by
  rcases handle_cases message server user with ⟨_, _, same, _⟩ | ⟨command, admits, same⟩
  · exact .inl (congrArg Reaction.server same)
  obtain rfl := Verb.command.inj (asked.symm.trans admits.asked)
  have registered : user.registered = true := admits.registered rfl
  rw [same]
  unfold run topic setTopic
  dsimp only
  split
  · exact .inl rfl
  rename_i channel found
  split
  · rename_i title given
    split
    · exact .inl rfl
    · rename_i present
      exact .inr ⟨title, channel, given, found, registered, by simpa using present, rfl⟩
  · split
    · exact .inl rfl
    · exact .inl rfl

/-- A MODE makes its changes one after another if all are good and its client may make them. -/
theorem handle_mode (asked : message.verb = .command .mode) :
    (handle message server user).server = server ∨
      ∃ channel changes, server.channels.find? (message.param 0) = some channel ∧
        Mode.validate (Mode.channelChanges (message.param 1) (message.params.drop 2)) =
          .ok changes ∧
        user.registered = true ∧
        (user.operator = true ∨ channel.isOperator user.nick = true) ∧
        handle message server user =
          forEach changes (changeMode (message.param 0)) server user := by
  rcases handle_cases message server user with ⟨_, _, same, _⟩ | ⟨command, admits, same⟩
  · exact .inl (congrArg Reaction.server same)
  obtain rfl := Verb.command.inj (asked.symm.trans admits.asked)
  have registered : user.registered = true := admits.registered rfl
  rw [same]
  unfold run mode
  dsimp only
  split
  · exact .inl rfl
  rename_i channel found
  split
  · exact .inl rfl
  rename_i changes valid
  split
  · rename_i authority
    exact .inr ⟨channel, changes, found, valid, registered, Bool.or_eq_true_iff.mp authority, rfl⟩
  · exact .inl rfl

/-- A flag after one change is as it was, or as the change has it. -/
theorem changeMode_flags {name label : Text} {change : Mode.Change}
    (distinct : ∀ channel, server.channels.find? name = some channel →
      DistinctMembers channel.members) {new : Channel}
    (known : (changeMode name change server user).server.channels.find? label = some new)
    {member : Member} (present : member ∈ new.members) :
    ∃ old, server.channels.find? label = some old ∧ ∃ was ∈ old.members,
      was.nick = member.nick ∧ (member.operator = was.operator ∨
        label.fold = name.fold ∧ change.nick.fold = member.key ∧
          change.enabled = member.operator) := by
  have still : server.channels.find? label = some new → ∃ old,
      server.channels.find? label = some old ∧ ∃ was ∈ old.members,
        was.nick = member.nick ∧ (member.operator = was.operator ∨
          label.fold = name.fold ∧ change.nick.fold = member.key ∧
            change.enabled = member.operator) :=
    fun found => ⟨new, found, member, present, rfl, .inl rfl⟩
  unfold changeMode at known
  split at known
  · exact still known
  rename_i channel found
  split at known
  · exact still known
  dsimp only at known
  rw [Server.find?_setChannel] at known
  split at known
  · rename_i same
    cases known
    rw [Channel.setOperator_snd (distinct channel found)] at present
    obtain ⟨was, listed, rfl⟩ := List.mem_map.mp present
    refine ⟨channel, (Directory.find?_congr same).trans found, was, listed, ?_⟩
    split
    · rename_i named
      exact ⟨rfl, .inr ⟨same, named.symm, rfl⟩⟩
    · exact ⟨rfl, .inl rfl⟩
  · exact still known

theorem changeMode_distinct {name : Text} {change : Mode.Change}
    (distinct : ∀ channel, server.channels.find? name = some channel →
      DistinctMembers channel.members) :
    ∀ channel, (changeMode name change server user).server.channels.find? name = some channel →
      DistinctMembers channel.members := by
  intro new known
  unfold changeMode at known
  split at known
  · exact distinct new known
  rename_i channel found
  split at known
  · exact distinct new known
  dsimp only at known
  rw [Server.find?_setChannel_self] at known
  cases known
  exact Channel.distinct_setOperator (distinct channel found) _ _

theorem changeMode_user (name : Text) (change : Mode.Change) (server : Server) (user : User) :
    (changeMode name change server user).user = user := by
  unfold changeMode
  split
  · rfl
  · split
    · rfl
    · rfl

/-- A flag after some changes is as it was, or as one of the changes has it. -/
theorem forEach_changeMode {name label : Text} {changes : List Mode.Change}
    (distinct : ∀ channel, server.channels.find? name = some channel →
      DistinctMembers channel.members) {new : Channel}
    (known : (forEach changes (changeMode name) server user).server.channels.find? label = some new)
    {member : Member} (present : member ∈ new.members) :
    ∃ old, server.channels.find? label = some old ∧ ∃ was ∈ old.members,
      was.nick = member.nick ∧ (member.operator = was.operator ∨
        label.fold = name.fold ∧ ∃ change ∈ changes, change.nick.fold = member.key ∧
          change.enabled = member.operator) := by
  induction changes generalizing server with
  | nil => exact ⟨new, known, member, present, rfl, .inl rfl⟩
  | cons change rest inductionHypothesis =>
      rw [forEach_cons (changeMode_user name change server user)] at known
      obtain ⟨mid, between, was, listed, sameNick, later⟩ :=
        inductionHypothesis (changeMode_distinct distinct) known
      obtain ⟨old, found, first, there, firstNick, early⟩ :=
        changeMode_flags distinct between listed
      have sameKey : was.key = member.key := congrArg Text.fold sameNick
      refine ⟨old, found, first, there, firstNick.trans sameNick, ?_⟩
      rcases later with same | ⟨here, other, asked, named, given⟩
      · rcases early with firstSame | ⟨here, named, given⟩
        · exact .inl (same.trans firstSame)
        · exact .inr ⟨here, change, List.mem_cons_self, named.trans sameKey, given.trans same.symm⟩
      · exact .inr ⟨here, other, List.mem_cons_of_mem _ asked, named, given⟩

end Handler

section Calm

variable {message : Message} {server : Server} {user : User} {reaction : Reaction}

/-- Only a few commands change a channel or a connection. -/
theorem Act.calm (act : Act message server user reaction)
    (calm : ∀ command ∈ [Command.join, .part, .mode, .topic, .nick, .user],
      message.verb ≠ .command command) :
    reaction.server.channels = server.channels ∧
      reaction.server.connections = server.connections := by
  cases act with
  | still => exact ⟨rfl, rfl⟩
  | marked | empowered =>
      exact ⟨Server.refresh_channels _ _, Server.refresh_connections _ _⟩
  | joined asked | parted asked | changed asked | titled asked | renamed asked | named asked
  | introduced asked => exact absurd asked (calm _ (by simp))
  | enrolled _ giving =>
      rcases giving with ⟨asked, _⟩ | ⟨asked, _⟩
      · exact absurd asked (calm _ (by simp))
      · exact absurd asked (calm _ (by simp))

theorem Acts.calm (acts : Acts message server user reaction)
    (calm : ∀ command ∈ [Command.join, .part, .mode, .topic, .nick, .user],
      message.verb ≠ .command command) :
    reaction.server.channels = server.channels ∧
      reaction.server.connections = server.connections := by
  induction acts with
  | quit => exact ⟨rfl, rfl⟩
  | last act => exact act.calm calm
  | next act _ inductionHypothesis =>
      obtain ⟨channels, connections⟩ := act.calm calm
      exact ⟨inductionHypothesis.1.trans channels, inductionHypothesis.2.trans connections⟩

theorem Handler.handle_calm
    (quiet : (∃ command ∈ [Command.away, .list, .lusers, .motd, .names, .oper, .ping, .pong,
        .privmsg, .notice, .whois], message.verb = .command command) ∨
      message.verb = .command .topic ∧ message.params[1]? = none) :
    (handle message server user).server.channels = server.channels ∧
      (handle message server user).server.connections = server.connections := by
  rcases quiet with ⟨command, listed, asked⟩ | ⟨asked, untitled⟩
  · refine (handle_acts message server user).calm fun other member same => ?_
    cases asked.symm.trans same
    have apart : ∀ command ∈ [Command.join, .part, .mode, .topic, .nick, .user],
        command ∉ [Command.away, .list, .lusers, .motd, .names, .oper, .ping, .pong, .privmsg,
          .notice, .whois] := by decide
    exact apart _ member listed
  · rcases handle_topic asked with same | ⟨title, _, given, _⟩
    · rw [same]
      exact ⟨rfl, rfl⟩
    · cases untitled.symm.trans given

end Calm

end IrcServer
