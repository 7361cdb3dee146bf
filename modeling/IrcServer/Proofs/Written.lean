import IrcServer.Proofs.Changes
import IrcServer.Proofs.Holdings
import IrcServer.Proofs.Sent

namespace IrcServer

/-! A control character that nobody brings in is in nothing that the server writes.

What clients give is kept in the server and told to others.  One lemma for each command says that
neither the server nor a line gets a character that was not there before, and so it is for every
message (`Handler.lacks_handle`) and for a whole run (`Network.Lacks.after`). -/

variable {bad : Char}

structure Reaction.Lacks (bad : Char) (reaction : Reaction) : Prop where
  server : reaction.server.Lacks bad
  user : reaction.user.Lacks bad
  relayed : ∀ delivery ∈ reaction.relayed, bad ∉ delivery.line.raw
  replies : ∀ line ∈ reaction.replies, bad ∉ line.raw

namespace Mode

theorem symbol_of_letters {enabled : Bool} {modes : Text} {letter : Letter}
    (member : letter ∈ lettersUnder enabled modes) : letter.symbol ∈ modes := by
  induction modes generalizing enabled with
  | nil => cases member
  | cons c rest inductionHypothesis =>
      rw [lettersUnder] at member
      split at member
      · exact List.mem_cons_of_mem _ (inductionHypothesis member)
      split at member
      · exact List.mem_cons_of_mem _ (inductionHypothesis member)
      · rcases List.mem_cons.mp member with rfl | later
        · exact List.mem_cons_self
        · exact List.mem_cons_of_mem _ (inductionHypothesis later)

theorem letter_of_changesOf {letters : List Letter} {nicks : List Text} {fault : Fault}
    (faulty : .error fault ∈ changesOf letters nicks) : fault.letter ∈ letters := by
  induction letters generalizing nicks with
  | nil => cases faulty
  | cons letter rest inductionHypothesis =>
      unfold changesOf at faulty
      split at faulty
      · split at faulty
        · rcases List.mem_cons.mp faulty with first | later
          · cases first
            exact List.mem_cons_self
          · exact List.mem_cons_of_mem _ (inductionHypothesis later)
        · rcases List.mem_cons.mp faulty with first | later
          · cases first
          · exact List.mem_cons_of_mem _ (inductionHypothesis later)
      · rcases List.mem_cons.mp faulty with first | later
        · cases first
          exact List.mem_cons_self
        · exact List.mem_cons_of_mem _ (inductionHypothesis later)

theorem fault_of_validate {items : List (Except Fault Change)} {fault : Fault}
    (faulty : validate items = .error fault) : .error fault ∈ items := by
  induction items with
  | nil => cases faulty
  | cons item rest inductionHypothesis =>
      cases item with
      | error first =>
          cases faulty
          exact List.mem_cons_self
      | ok change =>
          rw [validate] at faulty
          split at faulty
          · rename_i later
            cases faulty
            exact List.mem_cons_of_mem _ (inductionHypothesis later)
          · cases faulty

end Mode

namespace Handler

variable {server : Server} {user : User}

theorem lacks_answer (control : bad.toNat < 32) (clean : server.Lacks bad) (own : user.Lacks bad)
    {verdict : Verdict} {replies : List Reply}
    (said : ∀ reply ∈ replies, reply.Lacks bad) :
    (answer verdict replies server user).Lacks bad := by
  constructor
  · exact clean
  · exact own
  · simp [answer]
  · intro line member
    obtain ⟨reply, held, rfl⟩ := List.mem_map.mp member
    exact clean.reply control own (said reply held)

theorem lacks_forEach {α : Type} {items : List α} {step : α → Handler} (control : bad.toNat < 32)
    (each : ∀ item ∈ items, ∀ {server user}, server.Lacks bad → user.Lacks bad →
      (step item server user).Lacks bad)
    (clean : server.Lacks bad) (own : user.Lacks bad) :
    (forEach items step server user).Lacks bad := by
  induction items generalizing server user with
  | nil => exact lacks_answer control clean own (by simp)
  | cons item rest inductionHypothesis =>
      obtain ⟨first, others⟩ := List.forall_mem_cons.mp each
      have here := first clean own
      have later := inductionHypothesis others here.server here.user
      constructor
      · exact later.server
      · exact later.user
      · exact List.forall_mem_append.mpr ⟨here.relayed, later.relayed⟩
      · exact List.forall_mem_append.mpr ⟨here.replies, later.replies⟩

/-- A line for others that the client is told as well. -/
theorem lacks_announced {later : Server} {present : User} {nicks : List Text} {line : Line}
    (clean : later.Lacks bad) (own : present.Lacks bad) (written : bad ∉ line.raw) :
    Reaction.Lacks bad
      { server := later, user := present, relayed := later.relay nicks line, replies := [line]
        verdict := .accepted } := by
  constructor
  · exact clean
  · exact own
  · exact Server.Lacks.relay later nicks written
  · simpa using written

/-! What clients are told of the server. -/

theorem lacks_motdReplies (clean : server.Lacks bad) :
    ∀ reply ∈ server.motdReplies, reply.Lacks bad := by
  have lines := clean.profile.motd
  rw [Server.motdReplies]
  split
  · simp [Reply.Lacks, Reply.data]
  · rename_i motd known
    simpa [Reply.Lacks, Reply.data, or_imp, forall_and, clean.profile.domain] using lines motd known

theorem lacks_namesReplies (control : bad.toNat < 32) {channel : Channel}
    (clean : channel.Lacks bad) :
    ∀ reply ∈ server.namesReplies channel, reply.Lacks bad := by
  have names := lacks_nameTexts control (server.namesBudget channel) List.not_mem_nil clean.members
  simpa [Server.namesReplies, Reply.Lacks, Reply.data, or_imp, forall_and, clean.name] using names

theorem lacks_channelsText (control : bad.toNat < 32) (clean : server.Lacks bad) (nick : Text) :
    bad ∉ server.channelsText nick := by
  have signs : bad ≠ ' ' ∧ bad ≠ '@' := by
    constructor <;> intro same <;> simp [same] at control
  rw [Server.channelsText, Text.mem_intercalate signs.1]
  intro inside
  obtain ⟨shown, listed, inside⟩ := inside
  obtain ⟨channel, known, rfl⟩ := List.mem_map.mp listed
  have name := (clean.sorted (List.mem_filter.mp known).1).name
  split at inside <;> simp [signs, name] at inside

theorem lacks_whoisReplies (control : bad.toNat < 32) (clean : server.Lacks bad) {target : User}
    (own : target.Lacks bad) : ∀ reply ∈ server.whoisReplies target, reply.Lacks bad := by
  have nick := own.shownNick control
  have username := own.shownUsername control
  have channels := lacks_channelsText control clean target.nick
  have domain := clean.profile.domain
  intro reply member
  simp only [Server.whoisReplies, List.mem_append] at member
  rcases member with ((((first | second) | third) | fourth) | fifth) | last
  · simp only [List.mem_singleton] at first
    simp [first, Reply.Lacks, Reply.data, nick, username, own.host, own.realname]
  · split at second
    · cases second
    · simp only [List.mem_singleton] at second
      simp [second, Reply.Lacks, Reply.data, nick, channels]
  · simp only [List.mem_singleton] at third
    simp [third, Reply.Lacks, Reply.data, nick, domain]
  · obtain ⟨message, given, rfl⟩ := List.mem_map.mp fourth
    have gone := own.away message (Option.mem_toList.mp given)
    simp [Reply.Lacks, Reply.data, nick, gone]
  · split at fifth
    · simp only [List.mem_singleton] at fifth
      simp [fifth, Reply.Lacks, Reply.data, nick]
    · cases fifth
  · simp only [List.mem_singleton] at last
    simp [last, Reply.Lacks, Reply.data, nick]

theorem lacks_list (control : bad.toNat < 32) (clean : server.Lacks bad) (own : user.Lacks bad)
    (targets : Text) : (list targets server user).Lacks bad := by
  apply lacks_answer control clean own
  rw [List.forall_mem_append]
  constructor
  · intro reply member
    obtain ⟨channel, listed, rfl⟩ := List.mem_map.mp member
    have shown : channel.Lacks bad := by
      split at listed
      · exact clean.sorted listed
      · obtain ⟨name, _, known⟩ := List.mem_filterMap.mp listed
        exact clean.found known
    have topic : bad ∉ channel.topic.getD [] := by
      cases given : channel.topic with
      | none => simp
      | some title => exact shown.topic title given
    simp [Server.listReply, Reply.Lacks, Reply.data, shown.name, topic]
  · simp [Reply.Lacks, Reply.data]

theorem lacks_names (control : bad.toNat < 32) (clean : server.Lacks bad) (own : user.Lacks bad)
    {targets : Text} (asked : bad ∉ targets) : (names targets server user).Lacks bad := by
  rw [names]
  split
  · apply lacks_answer control clean own
    intro reply member
    obtain ⟨channel, listed, shown⟩ := List.mem_flatMap.mp member
    exact lacks_namesReplies control (clean.sorted listed) reply shown
  · apply lacks_forEach control _ clean own
    intro name piece server user clean own
    rw [namesOne]
    split
    · rename_i channel known
      exact lacks_answer control clean own (lacks_namesReplies control (clean.found known))
    · have named : bad ∉ name := fun inside => asked (Text.subset_of_mem_pieces piece inside)
      exact lacks_answer control clean own (by simp [Reply.Lacks, Reply.data, named])

theorem lacks_whois (control : bad.toNat < 32) (clean : server.Lacks bad) (own : user.Lacks bad)
    {nick : Text} (asked : bad ∉ nick) : (whois nick server user).Lacks bad := by
  rw [whois]
  split
  · rename_i target known
    exact lacks_answer control clean own (lacks_whoisReplies control clean (clean.entry known))
  · exact lacks_answer control clean own (by simp [Reply.Lacks, Reply.data, asked])

/-! Talking and being away. -/

theorem lacks_answers (command : Command) {reply : Reply} (clean : reply.Lacks bad) :
    ∀ answer ∈ answers command reply, answer.Lacks bad := by
  unfold answers
  split <;> simp [clean]

theorem lacks_talk (control : bad.toNat < 32) (clean : server.Lacks bad) (own : user.Lacks bad)
    (command : Command) {target text : Text} (asked : bad ∉ target) (said : bad ∉ text) :
    (talk command target text server user).Lacks bad := by
  have line : bad ∉ (user.line command [.word target] (some text)).raw :=
    own.line control command [target] (by simpa using asked) (by simpa using said)
  rw [talk]
  split
  · exact lacks_answer control clean own (lacks_answers command (by simp [Reply.Lacks, Reply.data]))
  split
  · rw [sayToChannel]
    split
    · exact lacks_answer control clean own (lacks_answers command (by simp [Reply.Lacks, Reply.data, asked]))
    split
    · exact lacks_answer control clean own (lacks_answers command (by simp [Reply.Lacks, Reply.data, asked]))
    · exact ⟨clean, own, Server.Lacks.relay _ _ line, by simp⟩
  · rw [sayToUser]
    split
    · exact lacks_answer control clean own (lacks_answers command (by simp [Reply.Lacks, Reply.data, asked]))
    · rename_i recipient known
      have entry := clean.entry known
      constructor
      · exact clean
      · exact own
      · simpa using line
      · intro reply member
        obtain ⟨away, told, rfl⟩ := List.mem_map.mp member
        obtain ⟨message, given, answered⟩ := List.mem_flatMap.mp told
        have gone : bad ∉ message := entry.away message (Option.mem_toList.mp given)
        apply clean.reply control own
        exact lacks_answers command (by simp [Reply.Lacks, Reply.data, entry.shownNick control, gone]) away answered

theorem lacks_topic (control : bad.toNat < 32) (clean : server.Lacks bad) (own : user.Lacks bad)
    {target : Text} (asked : bad ∉ target) {text : Option Text} (said : ∀ title ∈ text, bad ∉ title) :
    (topic target text server user).Lacks bad := by
  rw [topic]
  split
  · exact lacks_answer control clean own (by simp [Reply.Lacks, Reply.data, asked])
  · rename_i channel known
    have shown := clean.found known
    split
    · rename_i title
      have title : bad ∉ title := said title rfl
      rw [setTopic]
      split
      · exact lacks_answer control clean own (by simp [Reply.Lacks, Reply.data, shown.name])
      · exact lacks_announced (clean.setChannel target (shown.setTopic title)) own
          (own.line control .topic [channel.name] (by simpa using shown.name) (by simpa using title))
    · split
      · rename_i title given
        have title : bad ∉ title := shown.topic title given
        exact lacks_answer control clean own (by simp [Reply.Lacks, Reply.data, shown.name, title])
      · exact lacks_answer control clean own (by simp [Reply.Lacks, Reply.data, shown.name])

theorem lacks_away (control : bad.toNat < 32) (clean : server.Lacks bad) (own : user.Lacks bad)
    {text : Text} (said : bad ∉ text) : (away text server user).Lacks bad := by
  have gone : User.Lacks bad { user with away := if text = [] then none else some text } := by
    constructor
    · exact own.host
    · exact own.nick
    · exact own.username
    · exact own.realname
    · dsimp only
      split <;> simp [said]
    · exact own.quitReason
  apply lacks_answer control (clean.refresh gone) gone
  split <;> simp [Reply.Lacks, Reply.data]

theorem lacks_ping (control : bad.toNat < 32) (clean : server.Lacks bad) (own : user.Lacks bad)
    {payload : Text} (said : bad ∉ payload) : (ping payload server user).Lacks bad := by
  have line : bad ∉ ((server.addressee user).plainLine Command.pong.name
      [.word server.profile.domain] (some payload)).raw := by
    apply Line.lacks_raw control clean.profile.domain (Command.lacks_name control .pong)
    · simpa [Addressee.plainLine] using (Param.lacks_raw control clean.profile.domain).1
    · simpa [Addressee.plainLine] using said
  exact ⟨clean, own, by simp [ping], by simpa [ping] using line⟩

theorem lacks_quit (control : bad.toNat < 32) (clean : server.Lacks bad) (own : user.Lacks bad)
    {text : Text} (said : bad ∉ text) : (quit text server user).Lacks bad := by
  have literal : ∀ text : Text, text.isPrintable = true → bad ∉ text := fun _ =>
    Text.lacks_printable control
  have reason : bad ∉ (if text = [] then clientQuit else text) := by
    split
    · exact literal _ (by decide)
    · exact said
  constructor
  · exact clean
  · constructor
    · exact own.host
    · exact own.nick
    · exact own.username
    · exact own.realname
    · exact own.away
    · simpa [quit] using reason
  · simp [quit]
  · intro line member
    rw [List.mem_singleton.mp member]
    apply Line.lacks_raw control
    · simp
    · exact literal "ERROR" (by decide)
    · simp
    · intro last given
      rw [← Option.some.inj given]
      simp only [List.mem_append, not_or]
      exact ⟨⟨⟨⟨literal _ (by decide), own.host⟩, literal _ (by decide)⟩, reason⟩,
        literal _ (by decide)⟩

/-! Operators. -/

theorem lacks_oper (control : bad.toNat < 32) (clean : server.Lacks bad) (own : user.Lacks bad)
    (password : Text) : (oper password server user).Lacks bad := by
  rw [oper]
  split
  · have refused : (refuse [.passwordMismatch] server user).Lacks bad :=
      lacks_answer control clean own (by simp [Reply.Lacks, Reply.data])
    exact ⟨clean.refresh own, refused.user, refused.relayed, refused.replies⟩
  · have powerful : User.Lacks bad { user with operator := true } :=
      ⟨own.host, own.nick, own.username, own.realname, own.away, own.quitReason⟩
    have granted : Server.Lacks bad (if user.operator then server
        else { server with operators := server.operators + 1 }) := by
      split
      · exact clean
      · exact clean.frame rfl rfl rfl
    exact lacks_answer control (granted.refresh powerful) powerful (by simp [Reply.Lacks, Reply.data])

theorem lacks_changeMode (control : bad.toNat < 32) (clean : server.Lacks bad)
    (own : user.Lacks bad) (name : Text) {change : Mode.Change} (asked : bad ∉ change.nick) :
    (changeMode name change server user).Lacks bad := by
  rw [changeMode]
  split
  · exact lacks_answer control clean own (by simp)
  · rename_i channel known
    have shown := clean.found known
    split
    · exact lacks_answer control clean own
        (by simp [Reply.Lacks, Reply.data, asked, shown.name])
    · have sign := change.lacks_modeString control
      exact lacks_announced (clean.setChannel name (shown.setOperator _ _)) own
        (own.line control .mode [channel.name, change.modeString, change.nick]
          (by simp [shown.name, sign, asked]) (by simp))

theorem lacks_mode (control : bad.toNat < 32) (clean : server.Lacks bad) (own : user.Lacks bad)
    {target modes : Text} {params : List Text} (asked : bad ∉ target) (letters : bad ∉ modes)
    (said : ∀ param ∈ params, bad ∉ param) : (mode target modes params server user).Lacks bad := by
  rw [mode]
  split
  · exact lacks_answer control clean own (by simp [Reply.Lacks, Reply.data, asked])
  · rename_i channel known
    have name := (clean.found known).name
    split
    · rename_i fault faulty
      apply lacks_answer control clean own
      have known := Mode.letter_of_changesOf (Mode.fault_of_validate faulty)
      cases fault with
      | unknown letter =>
          have symbol : bad ≠ letter.symbol := fun same =>
            letters (same ▸ Mode.symbol_of_letters known)
          simp [modeFault, Reply.Lacks, Reply.data, symbol, name]
      | missingParam => simp [modeFault, Reply.Lacks, Reply.data]
    · rename_i changes valid
      split
      · apply lacks_forEach control _ clean own
        intro change member server user clean own
        have asked := Mode.nick_of_channelChanges (Mode.of_validate valid change member)
        exact lacks_changeMode control clean own target (said _ asked)
      · exact lacks_answer control clean own (by simp [Reply.Lacks, Reply.data, name])

/-! Channels. -/

theorem lacks_joinOne (control : bad.toNat < 32) (clean : server.Lacks bad) (own : user.Lacks bad)
    {name : Text} (asked : bad ∉ name) : (joinOne name server user).Lacks bad := by
  have listed : ((server.channels.find? name).getD (.new name)).Lacks bad := by
    cases known : server.channels.find? name with
    | none => exact .new asked
    | some channel => exact clean.found known
  rw [joinOne]
  split
  · exact lacks_answer control clean own (by simp [Reply.Lacks, Reply.data, asked])
  · dsimp only
    split
    · rename_i channel entered
      have shown : channel.Lacks bad := by
        have joined := listed.join (own.shownNick control) (server.channels.find? name).isNone
        rwa [entered] at joined
      have joined := clean.setChannel name shown
      have line : bad ∉ (user.line .join [.word channel.name] none).raw :=
        own.line control .join [channel.name] (by simpa using shown.name) (by simp)
      constructor
      · exact joined
      · exact own
      · exact Server.Lacks.relay _ _ line
      · rw [List.forall_mem_cons]
        refine ⟨line, fun other member => ?_⟩
        obtain ⟨reply, told, rfl⟩ := List.mem_map.mp member
        apply joined.reply control own
        rcases List.mem_append.mp told with topic | names
        · obtain ⟨title, given, rfl⟩ := List.mem_map.mp topic
          have title := shown.topic title (Option.mem_toList.mp given)
          simp [Reply.Lacks, Reply.data, shown.name, title]
        · exact lacks_namesReplies control shown reply names
    · exact lacks_answer control clean own (by simp)
    · exact lacks_answer control clean own (by simp)

theorem lacks_join (control : bad.toNat < 32) (clean : server.Lacks bad) (own : user.Lacks bad)
    {targets : Text} (asked : bad ∉ targets) : (join targets server user).Lacks bad := by
  apply lacks_forEach control _ clean own
  intro name piece server user clean own
  exact lacks_joinOne control clean own fun inside => asked (Text.subset_of_mem_pieces piece inside)

theorem lacks_part (control : bad.toNat < 32) (clean : server.Lacks bad) (own : user.Lacks bad)
    {targets reason : Text} (asked : bad ∉ targets) (said : bad ∉ reason) :
    (part targets reason server user).Lacks bad := by
  apply lacks_forEach control _ clean own
  intro name piece server user clean own
  have named : bad ∉ name := fun inside => asked (Text.subset_of_mem_pieces piece inside)
  rw [partOne]
  split
  · exact lacks_answer control clean own (by simp [Reply.Lacks, Reply.data, named])
  · rename_i channel known
    split
    · exact lacks_answer control clean own (by simp [Reply.Lacks, Reply.data, named])
    · apply lacks_announced (clean.leaveChannel name user.nick) own
      apply own.line control .part [channel.name] (by simpa using (clean.found known).name)
      split <;> simp [said]

/-! Names of clients. -/

theorem lacks_register (control : bad.toNat < 32) (clean : server.Lacks bad)
    (own : user.Lacks bad) : (register server user).Lacks bad := by
  rw [register]
  split
  · rename_i nick _ given _
    have fresh : bad ∉ nick := own.nick nick given
    split
    · have nameless : user.clearNick.Lacks bad :=
        ⟨own.host, by simp [User.clearNick], own.username, own.realname, own.away, own.quitReason⟩
      exact lacks_answer control clean nameless (by simp [Reply.Lacks, Reply.data, fresh])
    · have registered : User.Lacks bad { user with registered := true } :=
        ⟨own.host, own.nick, own.username, own.realname, own.away, own.quitReason⟩
      have enrolled := clean.enroll nick registered
      apply lacks_answer control enrolled registered
      rw [Server.welcomeReplies, List.forall_mem_append, List.forall_mem_append]
      refine ⟨⟨?_, by simp [Server.countReplies, Reply.Lacks, Reply.data]⟩,
        lacks_motdReplies enrolled⟩
      simp [Reply.Lacks, Reply.data, registered.fullName control, enrolled.profile.domain,
        enrolled.profile.createdAt]
  · exact lacks_answer control clean own (by simp)

theorem lacks_nick (control : bad.toNat < 32) (clean : server.Lacks bad) (own : user.Lacks bad)
    {name : Text} (asked : bad ∉ name) : (nick name server user).Lacks bad := by
  have inUse : ∀ reply ∈ [Reply.nicknameInUse name], reply.Lacks bad := by
    simp [Reply.Lacks, Reply.data, asked]
  rw [nick]
  split
  · exact lacks_answer control clean own (by simp [Reply.Lacks, Reply.data])
  split
  · exact lacks_answer control clean own (by simp [Reply.Lacks, Reply.data, asked])
  split
  · rw [nextNick]
    split
    · exact lacks_answer control clean own (by simp)
    split
    · exact lacks_answer control clean own inUse
    · exact lacks_announced (clean.rename own asked) (own.setNick asked)
        (own.line control .nick [name] (by simpa using asked) (by simp))
  · rw [firstNick]
    split
    · exact lacks_answer control clean own inUse
    · exact lacks_register control (clean.frame rfl rfl rfl) (own.setNick asked)

theorem lacks_user (control : bad.toNat < 32) (clean : server.Lacks bad) (own : user.Lacks bad)
    {username realname : Text} (given : bad ∉ username) (real : bad ∉ realname) :
    (Handler.user username realname server user).Lacks bad := by
  have named : (user.setUsername username realname).Lacks bad :=
    ⟨own.host, own.nick, by simp [User.setUsername, given], real, own.away, own.quitReason⟩
  exact lacks_register control (clean.frame rfl rfl rfl) named

theorem lacks_run (control : bad.toNat < 32) (clean : server.Lacks bad) (own : user.Lacks bad)
    (command : Command) {message : Message} (said : message.Lacks bad) :
    (run command message server user).Lacks bad := by
  have first := said.param 0
  have second := said.param 1
  have nothing : ∀ reply ∈ ([] : List Reply), reply.Lacks bad := by simp
  cases command with
  | away => exact lacks_away control clean own first
  | join => exact lacks_join control clean own first
  | list => exact lacks_list control clean own _
  | lusers =>
      exact lacks_answer control clean own (by simp [Server.countReplies, Reply.Lacks, Reply.data])
  | mode =>
      exact lacks_mode control clean own first second fun param member =>
        said.params param (List.mem_of_mem_drop member)
  | motd => exact lacks_answer control clean own (lacks_motdReplies clean)
  | names => exact lacks_names control clean own first
  | nick => exact lacks_nick control clean own first
  | notice => exact lacks_talk control clean own .notice first second
  | oper => exact lacks_oper control clean own _
  | part => exact lacks_part control clean own first second
  | ping => exact lacks_ping control clean own first
  | pong => exact lacks_answer control clean own nothing
  | privmsg => exact lacks_talk control clean own .privmsg first second
  | quit => exact lacks_quit control clean own first
  | topic =>
      exact lacks_topic control clean own first fun title given =>
        said.params title (List.mem_of_getElem? given)
  | user => exact lacks_user control clean own first (said.param 3)
  | whois => exact lacks_whois control clean own first

/-- Whatever is said, neither the server nor what it writes gets a character that nobody said. -/
theorem lacks_handle (control : bad.toNat < 32) (clean : server.Lacks bad) (own : user.Lacks bad)
    {message : Message} (said : message.Lacks bad) : (handle message server user).Lacks bad := by
  rcases handle_cases message server user with ⟨_, _, same, dismissed⟩ | ⟨command, _, same⟩
  · rw [same]
    refine lacks_answer control clean own fun reply member => ?_
    cases dismissed reply member with
    | unknown asked =>
        have known : bad ∉ Verb.word _ := said.verb
        rw [asked] at known
        simpa [Reply.Lacks, Reply.data, Verb.word] using known
    | _ => simp [Reply.Lacks, Reply.data]
  · rw [same]
    exact lacks_run control clean own command said

end Handler

/-! Runs. -/

/-- Nothing that an event brings holds the character. -/
def Event.Lacks (bad : Char) : Event → Prop
  | .connected host => bad ∉ host
  | .said _ message => message.Lacks bad
  | .left _ error => ∀ text ∈ error, bad ∉ text
  | .lostQueue _ => True

namespace Network

structure Lacks (bad : Char) (network : Network) : Prop where
  server : network.server.Lacks bad
  users : ∀ {number client}, network.client? number = some client → client.user.Lacks bad

namespace Lacks

variable {profile : Profile} {network later : Network} {number : Nat} {client : Client}

theorem new (clean : profile.Lacks bad) : (Network.new profile).Lacks bad := by
  constructor
  · exact .new clean
  · intro number client found
    cases found

/-- A change of the server and of one client. -/
theorem replace (clean : network.Lacks bad) (server : later.server.Lacks bad)
    (own : client.user.Lacks bad)
    (replaced : ∀ other, later.client? other =
      if other = number then some client else network.client? other) : later.Lacks bad := by
  constructor
  · exact server
  · intro other present found
    rw [replaced] at found
    split at found
    · exact Option.some.inj found ▸ own
    · exact clean.users found

theorem connect (clean : network.Lacks bad) {host : Text} (said : bad ∉ host) :
    (network.connect host).Lacks bad :=
  clean.replace (clean.server.frame rfl rfl rfl) (.new _ said _) (client?_connect network host)

theorem depart (control : bad.toNat < 32) (clean : network.Lacks bad)
    (found : network.client? number = some client) {error : Option Text}
    (reason : ∀ text ∈ error, bad ∉ text) :
    (network.depart number client error).network.Lacks bad := by
  have own := clean.users found
  apply clean.replace _ _ (client?_depart found client error)
  · exact (clean.server.depart control own reason).1
  · exact own

theorem handle (control : bad.toNat < 32) (clean : network.Lacks bad)
    (found : network.client? number = some client) {message : Message}
    (said : message.Lacks bad) : (network.handle number client message).network.Lacks bad := by
  have reaction := Handler.lacks_handle control clean.server (clean.users found) said
  have departed := @Server.Lacks.depart bad _ _ control reaction.server reaction.user none (by simp)
  apply clean.replace _ reaction.user (client?_handle message found)
  rw [server_handle]
  dsimp only
  split
  · exact departed.1
  · exact reaction.server

theorem step (control : bad.toNat < 32) (clean : network.Lacks bad) {event : Event}
    (said : event.Lacks bad) : (network.step event).network.Lacks bad := by
  rcases network.step_cases event with ⟨_, same⟩ | ⟨host, rfl, same⟩ |
    ⟨number, client, found, live, ⟨message, rfl, same⟩ | ⟨error, rfl, same⟩ | ⟨rfl, same⟩⟩
  · rw [same]
    exact clean
  · rw [same]
    exact clean.connect said
  · rw [same]
    exact clean.handle control found said
  · rw [same]
    exact clean.depart control found said
  · rw [same]
    have own := clean.users found
    exact @replace bad network (network.loseQueue number client) _ { client with listening := false }
      clean clean.server own (client?_setClient found)

theorem sent (control : bad.toNat < 32) (clean : network.Lacks bad) {event : Event}
    (said : event.Lacks bad) : ∀ delivery ∈ network.sent event, bad ∉ delivery.line.raw := by
  rcases network.step_cases event with ⟨silent, same⟩ | ⟨host, rfl, same⟩ |
    ⟨number, client, found, live, ⟨message, rfl, same⟩ | ⟨error, rfl, same⟩ | ⟨rfl, same⟩⟩
  · rw [sent_eq_nil silent same]
    simp
  · simp [Network.sent]
  · have reaction := Handler.lacks_handle control clean.server (clean.users found) said
    have departed := @Server.Lacks.depart bad _ _ control reaction.server reaction.user none
      (by simp)
    rw [sent_said found live, Reaction.deliveries, List.forall_mem_append, List.forall_mem_append]
    refine ⟨⟨reaction.relayed, ?_⟩, ?_⟩
    · intro delivery member
      obtain ⟨line, told, rfl⟩ := List.mem_map.mp member
      exact reaction.replies line told
    · split
      · exact departed.2
      · simp
  · rw [sent_left found live]
    exact (clean.server.depart control (clean.users found) said).2
  · simp [Network.sent]

theorem after (control : bad.toNat < 32) (clean : profile.Lacks bad) (events : List Event)
    (said : ∀ event ∈ events, event.Lacks bad) : ((Network.new profile).after events).Lacks bad := by
  induction events using List.reverseRecOn with
  | nil => exact new clean
  | append_singleton events event inductionHypothesis =>
      rw [after_append]
      rw [List.forall_mem_append, List.forall_mem_singleton] at said
      exact (inductionHypothesis said.1).step control said.2

/-- Over a whole run no client receives a line that holds the character. -/
theorem heard (control : bad.toNat < 32) (clean : profile.Lacks bad) (number : QueueId)
    (events : List Event) (said : ∀ event ∈ events, event.Lacks bad) :
    ∀ line ∈ (Network.new profile).gathered (fun network event =>
      (network.step event).linesFor number) events, bad ∉ line.raw := by
  induction events using List.reverseRecOn with
  | nil => simp [gathered]
  | append_singleton events event inductionHypothesis =>
      rw [List.forall_mem_append, List.forall_mem_singleton] at said
      rw [gathered_append, List.forall_mem_append]
      refine ⟨inductionHypothesis said.1, fun line member => ?_⟩
      rw [linesFor_step] at member
      split at member
      · obtain ⟨delivery, sent, _, rfl⟩ := mem_linesTo.mp member
        exact (after control clean events said.1).sent control said.2 delivery sent
      · cases member

end Lacks

end Network

end IrcServer
