import IrcServer.Server.Dispatch

namespace IrcServer

/-! What a message comes to, act by act.

A reaction is made of single acts: one for each channel of a list and for each letter of a mode
string, and one for any other command.  `Handler.handle_acts` finds them in every reaction, so a
property of the server is kept by all messages once every constructor of `Act` keeps it.
-/

namespace Server

@[simp] theorem refresh_profile (server : Server) (user : User) :
    (server.refresh user).profile = server.profile := by
  unfold refresh
  split
  · split <;> rfl
  · rfl

@[simp] theorem refresh_channels (server : Server) (user : User) :
    (server.refresh user).channels = server.channels := by
  unfold refresh
  split
  · split <;> rfl
  · rfl

@[simp] theorem refresh_connections (server : Server) (user : User) :
    (server.refresh user).connections = server.connections := by
  unfold refresh
  split
  · split <;> rfl
  · rfl

@[simp] theorem refresh_operators (server : Server) (user : User) :
    (server.refresh user).operators = server.operators := by
  unfold refresh
  split
  · split <;> rfl
  · rfl

theorem profile_depart (server : Server) (user : User) (error : Option Text) :
    (server.depart user error).1.profile = server.profile := by
  unfold depart
  split <;> rfl

/-- Who departs without being registered leaves its connection only. -/
theorem depart_of_unregistered {server : Server} {user : User} {error : Option Text}
    (unregistered : user.registered = false) :
    server.depart user error = (server.disconnect user.id, []) := by
  rw [depart, if_neg (ne_true_of_eq_false unregistered)]

theorem users_depart (server : Server) (user : User) (error : Option Text) :
    (server.depart user error).1.users =
      if user.registered then server.users.erase user.nick else server.users := by
  unfold depart
  split <;> rfl

theorem connections_depart (server : Server) (user : User) (error : Option Text) :
    (server.depart user error).1.connections = server.connections.erase user.id := by
  unfold depart
  split <;> rfl

theorem operators_depart (server : Server) (user : User) (error : Option Text) :
    (server.depart user error).1.operators = server.operators := by
  unfold depart
  split <;> rfl

/-- A relayed line goes to one that is found under one of the nicknames. -/
theorem of_mem_relay {server : Server} {nicks : List Text} {line : Line} {delivery : Delivery}
    (member : delivery ∈ server.relay nicks line) :
    delivery.line = line ∧ ∃ nick ∈ nicks, ∃ holder,
      server.users.find? nick = some holder ∧ holder.queue = delivery.queue := by
  obtain ⟨nick, named, made⟩ := List.mem_filterMap.mp member
  obtain ⟨holder, found, rfl⟩ := Option.map_eq_some_iff.mp made
  exact ⟨rfl, nick, named, holder, found, rfl⟩

/-- Those who are told of a departure are told of it as a QUIT. -/
theorem line_of_depart {server : Server} {user : User} {error : Option Text} {delivery : Delivery}
    (told : delivery ∈ (server.depart user error).2) :
    delivery.line = user.line .quit [] (some (departureReason user error)) := by
  unfold depart at told
  split at told
  · exact (of_mem_relay told).1
  · cases told

theorem reply_congr {left right : Server} {user other : User} (profile : left.profile = right.profile)
    (registered : user.registered = other.registered)
    (nick : user.registered = true → user.nick = other.nick) (reply : Reply) :
    left.reply user reply = right.reply other reply := by
  have same : left.addressee user = right.addressee other := by
    unfold addressee
    rw [profile, ← registered]
    split
    · rename_i known
      rw [nick known]
    · rfl
  unfold Server.reply
  rw [same]

end Server

/-- A line that answers a client without telling it of a change. -/
inductive Answer (server : Server) (user : User) : Line → Prop
  | reply {reply : Reply} (unwelcoming : ∀ fullName, reply ≠ .welcome fullName) :
      Answer server user (server.reply user reply)
  | pong (params : List Param) (text : Option Text) :
      Answer server user ((server.addressee user).plainLine Command.pong.name params text)

theorem Answer.of_reply {server later : Server} {user present : User} {replies : List Reply}
    (profile : later.profile = server.profile) (registered : present.registered = user.registered)
    (nick : present.registered = true → present.nick = user.nick)
    (unwelcoming : ∀ fullName, .welcome fullName ∉ replies) :
    ∀ line ∈ replies.map (later.reply present), Answer server user line := by
  intro line member
  obtain ⟨reply, replyMember, rfl⟩ := List.mem_map.mp member
  rw [Server.reply_congr profile registered nick]
  exact .reply fun fullName same => unwelcoming fullName (same ▸ replyMember)

theorem Message.param_zero {message : Message} {first : Text} {more : List Text}
    (params : message.params = first :: more) : message.param 0 = first := by
  rw [param, params]
  rfl

namespace Handler

def changeLine (user : User) (channel : Channel) (change : Mode.Change) : Line :=
  user.line .mode [.word channel.name, .word change.modeString, .word change.nick] none

/-- The reaction to a JOIN that makes the channel of that name `channel`. -/
def entered (name : Text) (channel : Channel) : Handler := fun server user =>
  let joined := server.setChannel name channel
  let line := user.line .join [.word channel.name] none
  let topic := channel.topic.toList.map fun title => Reply.topic channel.name title
  { server := joined
    user
    relayed := joined.relay (channel.others user.nick) line
    replies := line :: (topic ++ joined.namesReplies channel).map (joined.reply user)
    verdict := .accepted }

/-- The reaction that registers a client as `given`. -/
def enrolled (nick : Text) (given : User) : Handler := fun server user =>
  let registered := { given with registered := true }
  let enrolled := (server.advance user.id .identified).enroll nick registered
  { server := enrolled
    user := registered
    relayed := []
    replies := (enrolled.welcomeReplies registered).map (enrolled.reply registered)
    verdict := .accepted }

end Handler

/-- One act for a client, with the conditions under which it is done. -/
inductive Act (message : Message) (server : Server) (user : User) : Reaction → Prop
  /-- Nothing changes.  What others are sent is talk. -/
  | still {relayed : List Delivery} {replies : List Line} {verdict : Verdict}
      (talk : ∀ delivery ∈ relayed, user.registered = true ∧ ∃ command params text,
        (command = .privmsg ∨ command = .notice) ∧ delivery.line = user.line command params text)
      (answers : ∀ line ∈ replies, Answer server user line) :
      Act message server user { server, user, relayed, replies, verdict }
  /-- The client is away, or back, or as it was after a wrong password. -/
  | marked {away : Option Text} {replies : List Line} {verdict : Verdict}
      (asked : message.verb = .command .away ∨ message.verb = .command .oper)
      (registered : user.registered = true) (answers : ∀ line ∈ replies, Answer server user line) :
      Act message server user
        { server := server.refresh { user with away }
          user := { user with away }
          relayed := []
          replies
          verdict }
  | empowered {replies : List Line} (asked : message.verb = .command .oper)
      (registered : user.registered = true) (answers : ∀ line ∈ replies, Answer server user line)
      (password : message.params.getLast? = some server.profile.password) :
      Act message server user
        { server := { server with
            operators := server.operators + if user.operator then 0 else 1 }.refresh
              { user with operator := true }
          user := { user with operator := true }
          relayed := []
          replies
          verdict := .accepted }
  | joined {name : Text} {channel : Channel} (asked : message.verb = .command .join)
      (named : name ∈ (message.param 0).pieces) (registered : user.registered = true)
      (valid : ChannelName.isValid server.profile.channelLimit name = true)
      (listed : (server.channels.find? name).getD (.new name) = channel)
      (opened : channel.closed = false) (absent : channel.isMember user.nick = false) :
      Act message server user
        (Handler.entered name
          { channel with
            members := channel.members ++ [⟨user.nick, (server.channels.find? name).isNone⟩] }
          server user)
  | parted {reason name : Text} {channel : Channel} (asked : message.verb = .command .part)
      (registered : user.registered = true) (found : server.channels.find? name = some channel)
      (present : channel.isMember user.nick = true) :
      Act message server user
        { server := server.leaveChannel name user.nick
          user
          relayed := (server.leaveChannel name user.nick).relay (channel.leave user.nick).2.nicks
            (Handler.partLine user channel.name reason)
          replies := [Handler.partLine user channel.name reason]
          verdict := .accepted }
  | changed {change : Mode.Change} {channel : Channel} (asked : message.verb = .command .mode)
      (registered : user.registered = true)
      (found : server.channels.find? (message.param 0) = some channel)
      (present : channel.isMember change.nick = true) :
      Act message server user
        { server := server.setChannel (message.param 0)
            (channel.setOperator change.nick change.enabled).2
          user
          relayed := server.relay
            ((channel.setOperator change.nick change.enabled).2.others user.nick)
            (Handler.changeLine user channel change)
          replies := [Handler.changeLine user channel change]
          verdict := .accepted }
  | titled {name title : Text} {channel : Channel} (asked : message.verb = .command .topic)
      (registered : user.registered = true) (found : server.channels.find? name = some channel)
      (present : channel.isMember user.nick = true) :
      Act message server user
        { server := server.setChannel name (channel.setTopic title)
          user
          relayed := server.relay (channel.others user.nick)
            (user.line .topic [.word channel.name] (some title))
          replies := [user.line .topic [.word channel.name] (some title)]
          verdict := .accepted }
  | renamed {nick : Text} (asked : message.verb = .command .nick)
      (registered : user.registered = true)
      (valid : Nickname.isValid server.profile.nickLimit nick = true) (differs : user.nick ≠ nick)
      (free : server.heldByOther user nick = false) :
      Act message server user
        { server := server.rename user nick
          user := user.setNick nick
          relayed := (server.rename user nick).relay
            (peersIn (server.renamedChannels user nick) nick) (user.line .nick [.word nick] none)
          replies := [user.line .nick [.word nick] none]
          verdict := .accepted }
  /-- A client gives its nickname before its username. -/
  | named {nick : Text} (asked : message.verb = .command .nick)
      (unregistered : user.registered = false)
      (valid : Nickname.isValid server.profile.nickLimit nick = true)
      (unnamed : user.username? = none) :
      Act message server user
        { server := server.advance user.id .identified
          user := user.setNick nick
          relayed := []
          replies := []
          verdict := .accepted }
  /-- A client gives its username, and has no nickname or loses it to another. -/
  | introduced {realname : Text} {replies : List Line} {verdict : Verdict}
      (asked : message.verb = .command .user) (enough : message.hasEnoughParams = true)
      (unregistered : user.registered = false)
      (answers : ∀ line ∈ replies, Answer server user line) :
      Act message server user
        { server := server.advance user.id .identified
          user := { user with nick? := none, username? := some (message.param 0), realname }
          relayed := []
          replies
          verdict }
  | enrolled {nick username : Text} {given : User} (unregistered : user.registered = false)
      (giving : (message.verb = .command .nick ∧ given = user.setNick nick ∧
          Nickname.isValid server.profile.nickLimit nick = true) ∨
        message.verb = .command .user ∧ message.hasEnoughParams = true ∧ ∃ realname,
          given = user.setUsername (message.param 0) realname)
      (nickGiven : given.nick? = some nick) (usernameGiven : given.username? = some username)
      (free : server.users.contains nick = false) :
      Act message server user (Handler.enrolled nick given server user)

/-- A run of acts with all that comes of it, as one reaction.  A client that quits does nothing
else. -/
inductive Acts (message : Message) : Server → User → Reaction → Prop
  | quit {server : Server} {user : User} {reason : Text}
      (asked : message.verb = .command .quit) :
      Acts message server user (Handler.quit reason server user)
  | last {server : Server} {user : User} {reaction : Reaction}
      (act : Act message server user reaction) : Acts message server user reaction
  | next {server : Server} {user : User} {first rest : Reaction}
      (act : Act message server user first) (acts : Acts message first.server first.user rest) :
      Acts message server user
        { rest with
          relayed := first.relayed ++ rest.relayed
          replies := first.replies ++ rest.replies }

namespace Handler

variable {message : Message} {server : Server} {user : User}

theorem answer_act {verdict : Verdict} {replies : List Reply}
    (unwelcoming : ∀ fullName, .welcome fullName ∉ replies) :
    Act message server user (answer verdict replies server user) := by
  exact .still (by simp) (.of_reply rfl rfl (fun _ => rfl) unwelcoming)

theorem forEach_acts {α : Type} {items : List α} {step : α → Handler}
    (acts : ∀ item ∈ items, ∀ server,
      Act message server user (step item server user) ∧ (step item server user).user = user) :
    Acts message server user (forEach items step server user) := by
  induction items generalizing server with
  | nil => exact .last (answer_act (by simp))
  | cons item rest inductionHypothesis =>
      obtain ⟨act, same⟩ := acts item (by simp) server
      have tail : Acts message (step item server user).server (step item server user).user
          (forEach rest step (step item server user).server (step item server user).user) := by
        rw [same]
        exact inductionHypothesis fun other member =>
          acts other (List.mem_cons_of_mem _ member)
      exact .next act tail

/-- If its first step leaves the client's record alone, a list goes on for the same client. -/
theorem forEach_cons {α : Type} {item : α} {rest : List α} {step : α → Handler}
    (same : (step item server user).user = user) :
    forEach (item :: rest) step server user =
      { forEach rest step (step item server user).server user with
        relayed := (step item server user).relayed ++
          (forEach rest step (step item server user).server user).relayed
        replies := (step item server user).replies ++
          (forEach rest step (step item server user).server user).replies } := by
  change (step item server user).andThen (forEach rest step) = _
  rw [Reaction.andThen, same]

theorem forEach_user {α : Type} {items : List α} {step : α → Handler}
    (same : ∀ item ∈ items, ∀ server, (step item server user).user = user) :
    (forEach items step server user).user = user := by
  induction items generalizing server with
  | nil => rfl
  | cons item rest inductionHypothesis =>
      rw [forEach_cons (same item List.mem_cons_self server)]
      exact inductionHypothesis fun other member => same other (List.mem_cons_of_mem _ member)

/-! One lemma for each command. -/

theorem unwelcoming_namesReplies (server : Server) (channel : Channel) (fullName : Text) :
    .welcome fullName ∉ server.namesReplies channel := by
  simp [Server.namesReplies]

theorem unwelcoming_countReplies (server : Server) (fullName : Text) :
    .welcome fullName ∉ server.countReplies := by
  simp [Server.countReplies]

theorem unwelcoming_motdReplies (server : Server) (fullName : Text) :
    .welcome fullName ∉ server.motdReplies := by
  unfold Server.motdReplies
  split <;> simp

theorem list_acts (targets : Text) : Acts message server user (list targets server user) := by
  refine .last (answer_act fun fullName => ?_)
  simp [Server.listReply]

theorem namesOne_act (name : Text) :
    Act message server user (namesOne name server user) ∧
      (namesOne name server user).user = user := by
  unfold namesOne
  split
  · exact ⟨answer_act (unwelcoming_namesReplies _ _), rfl⟩
  · exact ⟨answer_act (by simp), rfl⟩

theorem names_acts (targets : Text) : Acts message server user (names targets server user) := by
  unfold names
  split
  · refine .last (answer_act fun fullName member => ?_)
    obtain ⟨channel, _, shown⟩ := List.mem_flatMap.mp member
    exact unwelcoming_namesReplies _ _ _ shown
  · exact forEach_acts fun name _ _ => namesOne_act name

theorem whois_acts (nick : Text) : Acts message server user (whois nick server user) := by
  unfold whois
  split
  · refine .last (answer_act fun fullName member => ?_)
    simp only [Server.whoisReplies, List.mem_append] at member
    rcases member with ((((member | member) | member) | member) | member) | member
    · simp at member
    · split at member <;> simp at member
    · simp at member
    · simp at member
    · split at member <;> simp at member
    · simp at member
  · exact .last (answer_act (by simp))

theorem answers_act {verdict : Verdict} {command : Command} {reply : Reply}
    (unwelcoming : ∀ fullName, reply ≠ .welcome fullName) :
    Act message server user (answer verdict (answers command reply) server user) := by
  refine answer_act fun fullName member => ?_
  unfold answers at member
  split at member
  · cases member
  · exact unwelcoming fullName (List.mem_singleton.mp member).symm

theorem talk_acts {command : Command} (spoken : command = .privmsg ∨ command = .notice)
    (registered : user.registered = true) (target text : Text) :
    Acts message server user (talk command target text server user) := by
  unfold talk
  split
  · exact .last (answers_act (by simp))
  split
  · unfold sayToChannel
    split
    · exact .last (answers_act (by simp))
    · split
      · exact .last (answers_act (by simp))
      · refine .last (.still ?_ (by simp))
        intro delivery member
        exact ⟨registered, command, _, _, spoken, (Server.of_mem_relay member).1⟩
  · unfold sayToUser
    split
    · exact .last (answers_act (by simp))
    · refine .last (.still ?_ ?_)
      · intro delivery member
        obtain rfl := List.mem_singleton.mp member
        exact ⟨registered, command, _, _, spoken, rfl⟩
      · intro line member
        obtain ⟨reply, replyMember, rfl⟩ := List.mem_map.mp member
        obtain ⟨away, _, answered⟩ := List.mem_flatMap.mp replyMember
        refine .reply fun fullName same => ?_
        unfold answers at answered
        split at answered
        · cases answered
        · subst same
          cases List.mem_singleton.mp answered

theorem topic_acts (asked : message.verb = .command .topic) (registered : user.registered = true)
    (target : Text) (text : Option Text) :
    Acts message server user (topic target text server user) := by
  unfold topic
  split
  · exact .last (answer_act (by simp))
  · rename_i channel found
    split
    · unfold setTopic
      split
      · exact .last (answer_act (by simp))
      · rename_i present
        exact .last (.titled asked registered found (by simpa using present))
    · split <;> exact .last (answer_act (by simp))

theorem away_acts (asked : message.verb = .command .away) (registered : user.registered = true)
    (text : Text) : Acts message server user (away text server user) := by
  refine .last (.marked (.inl asked) registered ?_)
  refine .of_reply (Server.refresh_profile _ _) rfl (fun _ => rfl) fun fullName => ?_
  split <;> simp

theorem lastParam {message : Message} (given : message.params ≠ []) :
    message.params.getLast? = some (message.param (message.params.length - 1)) := by
  have inRange : message.params.length - 1 < message.params.length :=
    Nat.sub_lt (List.length_pos_iff.mpr given) Nat.one_pos
  rw [List.getLast?_eq_getElem?, Message.param, List.getD_eq_getElem?_getD,
    List.getElem?_eq_getElem inRange, Option.getD_some]

theorem oper_acts (asked : message.verb = .command .oper) (registered : user.registered = true)
    (given : message.params ≠ []) :
    Acts message server user
      (oper (message.param (message.params.length - 1)) server user) := by
  unfold oper
  split
  · exact .last (@Act.marked message server user user.away _ _ (.inr asked) registered
      (.of_reply rfl rfl (fun _ => rfl) (by simp)))
  · rename_i matching
    have granted : (if user.operator then server
          else { server with operators := server.operators + 1 }) =
        { server with operators := server.operators + if user.operator then 0 else 1 } := by
      split <;> rfl
    simp only [granted]
    refine .last (.empowered asked registered ?_ ?_)
    · exact .of_reply (Server.refresh_profile _ _) rfl (fun _ => rfl) (by simp)
    · rw [lastParam given]
      exact congrArg some (by simpa using matching)

theorem joinOne_act (asked : message.verb = .command .join) {name : Text}
    (named : name ∈ (message.param 0).pieces) (registered : user.registered = true) :
    Act message server user (joinOne name server user) ∧ (joinOne name server user).user = user := by
  unfold joinOne
  split
  · exact ⟨answer_act (by simp), rfl⟩
  · rename_i valid
    dsimp only
    by_cases opened : ((server.channels.find? name).getD (.new name)).closed = true
    · simp only [Channel.join, if_pos opened]
      exact ⟨answer_act (by simp), rfl⟩
    by_cases present : ((server.channels.find? name).getD (.new name)).isMember user.nick = true
    · simp only [Channel.join, if_neg opened, if_pos present]
      exact ⟨answer_act (by simp), rfl⟩
    · simp only [Channel.join, if_neg opened, if_neg present]
      exact ⟨.joined asked named registered (by simpa using valid) rfl (by simpa using opened)
        (by simpa using present), trivial⟩

theorem join_acts (asked : message.verb = .command .join) (registered : user.registered = true) :
    Acts message server user (join (message.param 0) server user) :=
  forEach_acts fun _ named _ => joinOne_act asked named registered

theorem partOne_act (asked : message.verb = .command .part) (registered : user.registered = true)
    (reason name : Text) :
    Act message server user (partOne reason name server user) ∧
      (partOne reason name server user).user = user := by
  unfold partOne
  split
  · exact ⟨answer_act (by simp), rfl⟩
  · rename_i channel found
    split
    · exact ⟨answer_act (by simp), rfl⟩
    · rename_i present
      exact ⟨.parted asked registered found (by simpa using present), rfl⟩

theorem part_acts (asked : message.verb = .command .part) (registered : user.registered = true)
    (targets reason : Text) : Acts message server user (part targets reason server user) :=
  forEach_acts fun name _ _ => partOne_act asked registered reason name

theorem changeMode_act (asked : message.verb = .command .mode) (registered : user.registered = true)
    (change : Mode.Change) :
    Act message server user (changeMode (message.param 0) change server user) ∧
      (changeMode (message.param 0) change server user).user = user := by
  unfold changeMode
  split
  · exact ⟨answer_act (by simp), rfl⟩
  · rename_i channel found
    split
    · exact ⟨answer_act (by simp), rfl⟩
    · rename_i present
      exact ⟨.changed asked registered found (by simpa using present), rfl⟩

theorem mode_acts (asked : message.verb = .command .mode) (registered : user.registered = true)
    (modes : Text) (params : List Text) :
    Acts message server user (mode (message.param 0) modes params server user) := by
  unfold mode
  split
  · exact .last (answer_act (by simp))
  split
  · rename_i fault _
    refine .last (answer_act fun fullName member => ?_)
    cases fault <;> cases List.mem_singleton.mp member
  split
  · exact forEach_acts fun change _ _ => changeMode_act asked registered change
  · exact .last (answer_act (by simp))

theorem register_acts {given : User} (unregistered : user.registered = false)
    (giving : (message.verb = .command .nick ∧ ∃ nick, given = user.setNick nick ∧
        Nickname.isValid server.profile.nickLimit nick = true ∧
        server.users.contains nick = false) ∨
      message.verb = .command .user ∧ message.hasEnoughParams = true ∧ ∃ realname,
        given = user.setUsername (message.param 0) realname) :
    Acts message server user (register (server.advance user.id .identified) given) := by
  unfold register
  split
  · rename_i nick username nickGiven usernameGiven
    split
    · rename_i held
      rcases giving with ⟨_, chosen, rfl, _, free⟩ | ⟨asked, enough, realname, rfl⟩
      · cases nickGiven
        rw [← Bool.not_eq_true] at free
        exact absurd held free
      · exact .last (.introduced asked enough unregistered
          (.of_reply rfl rfl (by simp [User.clearNick, User.setUsername, unregistered]) (by simp)))
    · rename_i free
      have free : server.users.contains nick = false := eq_false_of_ne_true free
      refine .last (.enrolled unregistered ?_ nickGiven usernameGiven free)
      rcases giving with ⟨asked, chosen, rfl, valid, _⟩ | introduced
      · cases nickGiven
        exact .inl ⟨asked, rfl, valid⟩
      · exact .inr introduced
  · rename_i incomplete
    rcases giving with ⟨asked, chosen, rfl, valid, _⟩ | ⟨asked, enough, realname, rfl⟩
    · have unnamed : user.username? = none := by
        cases known : user.username? with
        | none => rfl
        | some username => exact absurd known (incomplete chosen username rfl)
      exact .last (.named asked unregistered valid unnamed)
    · have nickless : user.nick? = none := by
        cases known : user.nick? with
        | none => rfl
        | some nick => exact absurd rfl (incomplete nick _ known)
      have act := @Act.introduced message server user realname [] .accepted asked enough
        unregistered (by simp)
      simp only [say, answer, User.setUsername, nickless, List.map_nil]
      exact .last act

theorem nick_acts (asked : message.verb = .command .nick) (name : Text) :
    Acts message server user (nick name server user) := by
  unfold nick
  split
  · exact .last (answer_act (by simp))
  split
  · exact .last (answer_act (by simp))
  rename_i valid
  have valid : Nickname.isValid server.profile.nickLimit name = true := by simpa using valid
  split
  · rename_i registered
    unfold nextNick
    split
    · exact .last (answer_act (by simp))
    split
    · exact .last (answer_act (by simp))
    · rename_i differs free
      exact .last (.renamed asked registered valid differs (by simpa using free))
  · rename_i unregistered
    unfold firstNick
    split
    · exact .last (answer_act (by simp))
    · rename_i free
      exact register_acts (by simpa using unregistered)
        (.inl ⟨asked, name, rfl, valid, by simpa using free⟩)

theorem user_acts (asked : message.verb = .command .user)
    (enough : message.hasEnoughParams = true) (unregistered : user.registered = false)
    (realname : Text) :
    Acts message server user (Handler.user (message.param 0) realname server user) :=
  register_acts unregistered (.inr ⟨asked, enough, realname, rfl⟩)

/-- The message comes to a command that the client may use now, and gives enough for it. -/
structure Admits (message : Message) (user : User) (command : Command) : Prop where
  asked : message.verb = .command command
  allowed : user.registered = true ∨ command.beforeRegistration = true
  once : ¬ (user.registered = true ∧ command = .user)
  enough : message.hasEnoughParams = true

/-- What can be said to a message that comes to no command. -/
inductive Dismissal (message : Message) : Reply → Prop
  | unknown {word : Text} (asked : message.verb = .other word) :
      Dismissal message (.unknownCommand word)
  | early : Dismissal message .notRegistered
  | twice : Dismissal message .alreadyRegistered
  | noNickname : Dismissal message .noNickname
  | noRecipient {command : Command} : Dismissal message (.noRecipient command)
  | noText : Dismissal message .noText
  | few {command : Command} : Dismissal message (.needMoreParams command)

theorem Admits.registered {command : Command} (admits : Admits message user command)
    (late : command.beforeRegistration = false) : user.registered = true := by
  simpa [late] using admits.allowed

theorem dismissal_of_tooFewParams {command : Command} {params : Nat} :
    ∀ reply ∈ tooFewParams command params, Dismissal message reply := by
  unfold tooFewParams
  split
  · exact List.forall_mem_singleton.mpr .noNickname
  · exact List.forall_mem_singleton.mpr .noNickname
  · split
    · exact List.forall_mem_singleton.mpr .noRecipient
    · exact List.forall_mem_singleton.mpr .noText
  · exact List.forall_mem_nil _
  · exact List.forall_mem_singleton.mpr .few

/-- A message is answered at once, and changes nothing, or comes to a command. -/
theorem handle_cases (message : Message) (server : Server) (user : User) :
    (∃ verdict replies, handle message server user = answer verdict replies server user ∧
        ∀ reply ∈ replies, Dismissal message reply) ∨
      ∃ command, Admits message user command ∧
        handle message server user = run command message server user := by
  unfold handle
  split
  · rename_i word asked
    refine .inl ⟨_, _, rfl, ?_⟩
    split
    · exact List.forall_mem_singleton.mpr (.unknown asked)
    · exact List.forall_mem_nil _
  · split
    · exact .inl ⟨_, _, rfl, List.forall_mem_nil _⟩
    · exact .inl ⟨_, _, rfl, List.forall_mem_singleton.mpr .early⟩
  rename_i command asked
  split
  · exact .inl ⟨_, _, rfl, List.forall_mem_singleton.mpr .early⟩
  rename_i allowed
  split
  · exact .inl ⟨_, _, rfl, List.forall_mem_singleton.mpr .twice⟩
  rename_i once
  split
  · exact .inl ⟨_, _, rfl, dismissal_of_tooFewParams⟩
  · rename_i enough
    refine .inr ⟨command, ⟨asked, ?_, by simpa using once, by simpa using enough⟩, rfl⟩
    cases known : user.registered <;> simp_all

theorem run_acts {command : Command} (admits : Admits message user command) :
    Acts message server user (run command message server user) := by
  have asked := admits.asked
  have registered := admits.registered
  cases command with
  | away => exact away_acts asked (registered rfl) _
  | join => exact join_acts asked (registered rfl)
  | list => exact list_acts _
  | lusers => exact .last (answer_act (unwelcoming_countReplies _))
  | mode => exact mode_acts asked (registered rfl) _ _
  | motd => exact .last (answer_act (unwelcoming_motdReplies _))
  | names => exact names_acts _
  | nick => exact nick_acts asked _
  | notice => exact talk_acts (.inr rfl) (registered rfl) _ _
  | oper =>
      have given : 1 ≤ message.params.length := by
        have enough := admits.enough
        rw [Message.hasEnoughParams, asked] at enough
        exact of_decide_eq_true enough
      exact oper_acts asked (registered rfl) (List.length_pos_iff.mp given)
  | part => exact part_acts asked (registered rfl) _ _
  | ping =>
      refine .last (.still (by simp) ?_)
      intro line member
      obtain rfl := List.mem_singleton.mp member
      exact .pong _ _
  | pong => exact .last (answer_act (by simp))
  | privmsg => exact talk_acts (.inl rfl) (registered rfl) _ _
  | quit => exact .quit asked
  | topic => exact topic_acts asked (registered rfl) _ _
  | user => exact user_acts asked admits.enough (by simpa using admits.once) _
  | whois => exact whois_acts _

/-- Every reaction is a run of acts. -/
theorem handle_acts (message : Message) (server : Server) (user : User) :
    Acts message server user (handle message server user) := by
  rcases handle_cases message server user with ⟨_, _, same, dismissed⟩ | ⟨_, admits, same⟩
  · rw [same]
    exact .last (answer_act fun fullName member => nomatch dismissed _ member)
  · exact same ▸ run_acts admits

/-- Every command but USER is run for a registered client that gives enough parameters. -/
theorem handle_eq_run {command : Command} (asked : message.verb = .command command)
    (registered : user.registered = true) (late : command ≠ .user)
    (enough : command.minParams ≤ message.params.length) :
    handle message server user = run command message server user := by
  unfold handle Message.hasEnoughParams
  rw [asked]
  simp [registered, late, enough]

end Handler

end IrcServer
