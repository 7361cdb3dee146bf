import IrcServer.Proofs.Progress
import IrcServer.Proofs.Sent

namespace IrcServer

/-! Messages that are turned down.

A command is turned down before it has changed anything, whether it has been heard by its handler or
not.  `Refused` lists all that a refusal can come to.  Two of its cases write to the server after
all, and it takes what every run keeps to see that they write what is there already. -/

/-- A message that is turned down without a word.  Before registration a NOTICE is answered like any
other command. -/
def Message.Ignored (message : Message) (user : User) : Prop :=
  (∃ word, message.verb = .other word) ∧ user.registered = false ∨
    message.verb = .command .notice ∧ user.registered = true

theorem Message.not_ignored {message : Message} {user : User} {command : Command}
    (asked : message.verb = .command command)
    (early : command = .notice → user.registered = false) : ¬ message.Ignored user := by
  rintro (⟨⟨word, other⟩, _⟩ | ⟨notice, registered⟩)
  · cases asked.symm.trans other
  · cases asked.symm.trans notice
    cases (early rfl).symm.trans registered

/-- A refusal of a message. -/
inductive Refused (message : Message) (server : Server) (user : User) : Reaction → Prop
  | told {verdict : Verdict} {reply : Reply} (heard : ¬ message.Ignored user)
      (early : message.verb = .command .user → verdict = .rejected) :
      Refused message server user (Handler.answer verdict [reply] server user)
  | ignored {verdict : Verdict} (ignored : message.Ignored user) :
      Refused message server user (Handler.answer verdict [] server user)
  /-- OPER with a wrong password writes the client's record to the directory. -/
  | mistaken (asked : message.verb = .command .oper) :
      Refused message server user
        { Handler.refuse [.passwordMismatch] server user with server := server.refresh user }
  /-- USER of a client whose nickname has been taken by another meanwhile. -/
  | outrun {nick : Text} (asked : message.verb = .command .user)
      (unregistered : user.registered = false) (staged : user.nick? = some nick) :
      Refused message server user
        (Handler.refuse [.nicknameInUse nick] (server.advance user.id .identified)
          (user.setUsername (message.param 0) (message.param 3)).clearNick)

namespace Handler

variable {message : Message} {server : Server} {user : User}

theorem forEach_accepted {α : Type} (items : List α) (step : α → Handler) (server : Server)
    (user : User) : (forEach items step server user).verdict = .accepted := by
  induction items generalizing server user with
  | nil => rfl
  | cons item rest inductionHypothesis => exact inductionHypothesis _ _

theorem names_accepted (targets : Text) (server : Server) (user : User) :
    (names targets server user).verdict = .accepted := by
  unfold names
  split
  · rfl
  · exact forEach_accepted _ _ _ _

/-! One lemma for each command that can be refused. -/

theorem mode_refused {target modes : Text} {params : List Text}
    (refused : (mode target modes params server user).verdict ≠ .accepted) :
    ∃ reply, mode target modes params server user = refuse [reply] server user := by
  unfold mode at refused ⊢
  split at refused
  · exact ⟨_, rfl⟩
  split at refused
  · exact ⟨_, rfl⟩
  split at refused
  · exact absurd (forEach_accepted _ _ _ _) refused
  · rename_i denied
    exact ⟨_, if_neg denied⟩

theorem topic_refused {target : Text} {text : Option Text}
    (refused : (topic target text server user).verdict ≠ .accepted) :
    ∃ reply, topic target text server user = refuse [reply] server user := by
  unfold topic setTopic at refused ⊢
  split at refused
  · exact ⟨_, rfl⟩
  split at refused
  · split at refused
    · rename_i absent
      exact ⟨_, if_pos absent⟩
    · exact absurd rfl refused
  · split at refused
    · exact absurd rfl refused
    · exact absurd rfl refused

theorem whois_refused {nick : Text} (refused : (whois nick server user).verdict ≠ .accepted) :
    ∃ reply, whois nick server user = refuse [reply] server user := by
  unfold whois at refused ⊢
  split at refused
  · exact absurd rfl refused
  · exact ⟨_, rfl⟩

theorem talk_refused {command : Command} {target text : Text}
    (refused : (talk command target text server user).verdict ≠ .accepted) :
    ∃ reply, talk command target text server user =
      refuse (answers command reply) server user := by
  unfold talk at refused ⊢
  split at refused
  · rename_i empty
    exact ⟨_, if_pos empty⟩
  rename_i given
  rw [if_neg given]
  split at refused
  · rename_i channelTarget
    rw [if_pos channelTarget]
    unfold sayToChannel at refused ⊢
    split at refused
    · exact ⟨_, rfl⟩
    split at refused
    · rename_i absent
      exact ⟨_, if_pos absent⟩
    · exact absurd rfl refused
  · rename_i userTarget
    rw [if_neg userTarget]
    unfold sayToUser at refused ⊢
    split at refused
    · exact ⟨_, rfl⟩
    · exact absurd rfl refused

theorem register_refused (refused : (register server user).verdict ≠ .accepted) :
    ∃ nick, user.nick? = some nick ∧ server.users.contains nick = true ∧
      register server user = refuse [.nicknameInUse nick] server user.clearNick := by
  unfold register at refused ⊢
  split at refused
  · rename_i nick _ named _
    split at refused
    · rename_i held
      rw [if_pos held]
      exact ⟨nick, named, held, rfl⟩
    · exact absurd rfl refused
  · exact absurd rfl refused

theorem nick_refused {name : Text} (refused : (nick name server user).verdict ≠ .accepted) :
    ∃ reply, nick name server user = refuse [reply] server user := by
  unfold nick at refused ⊢
  split at refused
  · rename_i empty
    exact ⟨_, if_pos empty⟩
  rename_i given
  rw [if_neg given]
  split at refused
  · rename_i invalid
    exact ⟨_, if_pos invalid⟩
  rename_i valid
  rw [if_neg valid]
  split at refused
  · rename_i registered
    rw [if_pos registered]
    unfold nextNick at refused ⊢
    split at refused
    · exact absurd rfl refused
    rename_i differs
    rw [if_neg differs]
    split at refused
    · rename_i held
      exact ⟨_, if_pos held⟩
    · exact absurd rfl refused
  · rename_i unregistered
    rw [if_neg unregistered]
    unfold firstNick at refused ⊢
    split at refused
    · rename_i held
      exact ⟨_, if_pos held⟩
    · -- The nickname is free, and so it is in the registration that may follow.
      rename_i free
      obtain ⟨held, named, taken, _⟩ := register_refused refused
      cases named
      exact absurd taken free

theorem oper_refused {password : Text} (refused : (oper password server user).verdict ≠ .accepted) :
    oper password server user =
      { refuse [.passwordMismatch] server user with server := server.refresh user } := by
  unfold oper at refused ⊢
  split at refused
  · rename_i wrong
    rw [if_pos wrong]
  · exact absurd rfl refused

theorem run_refused {command : Command} (asked : message.verb = .command command)
    (once : ¬ (user.registered = true ∧ command = .user))
    (late : command.beforeRegistration = false → user.registered = true)
    (refused : (run command message server user).verdict ≠ .accepted) :
    Refused message server user (run command message server user) := by
  have told : command ≠ .notice → command ≠ .user →
      (∃ reply, run command message server user = refuse [reply] server user) →
      Refused message server user (run command message server user) := by
    rintro talked introduced ⟨reply, same⟩
    rw [same]
    refine .told (Message.not_ignored asked fun notice => absurd notice talked) fun other => ?_
    cases asked.symm.trans other
    exact absurd rfl introduced
  cases command with
  | mode => exact told nofun nofun (mode_refused refused)
  | nick => exact told nofun nofun (nick_refused refused)
  | topic => exact told nofun nofun (topic_refused refused)
  | whois => exact told nofun nofun (whois_refused refused)
  | privmsg => exact told nofun nofun (talk_refused refused)
  | notice =>
      obtain ⟨reply, same⟩ := talk_refused refused
      rw [run, same]
      exact .ignored (.inr ⟨asked, late rfl⟩)
  | oper =>
      rw [run, oper_refused refused]
      exact .mistaken asked
  | user =>
      obtain ⟨nick, staged, _, same⟩ := register_refused refused
      rw [run, Handler.user, same]
      exact .outrun asked (by simpa using once) staged
  | join | part => exact absurd (forEach_accepted _ _ _ _) refused
  | names => exact absurd (names_accepted _ _ _) refused
  | _ => exact absurd rfl refused

theorem tooFewParams_eq {command : Command} (params : Nat) (talked : command ≠ .notice) :
    ∃ reply, tooFewParams command params = [reply] := by
  unfold tooFewParams
  split
  · exact ⟨_, rfl⟩
  · exact ⟨_, rfl⟩
  · split
    · exact ⟨_, rfl⟩
    · exact ⟨_, rfl⟩
  · exact absurd rfl talked
  · exact ⟨_, rfl⟩

/-- Whatever is not accepted is turned down in one of four ways. -/
theorem handle_refused (refused : (handle message server user).verdict ≠ .accepted) :
    Refused message server user (handle message server user) := by
  unfold handle at refused ⊢
  split at refused
  · rename_i word asked
    split
    · rename_i registered
      refine .told ?_ fun other => by cases asked.symm.trans other
      rintro (⟨_, unregistered⟩ | ⟨other, _⟩)
      · cases registered.symm.trans unregistered
      · cases asked.symm.trans other
    · rename_i unregistered
      exact .ignored (.inl ⟨⟨word, asked⟩, eq_false_of_ne_true unregistered⟩)
  · rename_i code asked
    split at refused
    · exact absurd rfl refused
    · rename_i unregistered
      rw [if_neg unregistered]
      refine .told ?_ fun _ => rfl
      rintro (⟨⟨word, other⟩, _⟩ | ⟨other, _⟩) <;> cases asked.symm.trans other
  · rename_i command asked
    split at refused
    · rename_i early
      rw [if_pos early]
      refine .told (Message.not_ignored asked fun _ => ?_) fun _ => rfl
      exact eq_false_of_ne_true fun registered => by simp [registered] at early
    rename_i allowed
    rw [if_neg allowed]
    split at refused
    · rename_i again
      rw [if_pos again]
      refine .told (Message.not_ignored asked fun notice => ?_) fun _ => rfl
      simp [notice] at again
    rename_i once
    rw [if_neg once]
    split at refused
    · rename_i few
      rw [if_pos few]
      by_cases talked : command = .notice
      · subst talked
        exact .ignored (.inr ⟨asked, by simpa [Command.beforeRegistration] using allowed⟩)
      · obtain ⟨reply, same⟩ := tooFewParams_eq message.params.length talked
        rw [same]
        exact .told (Message.not_ignored asked fun notice => absurd notice talked) fun _ => rfl
    · rename_i enough
      rw [if_neg enough]
      exact run_refused asked (by simpa using once) (fun late => by simpa [late] using allowed)
        refused

end Handler

/-! Writes that find what they write. -/

theorem Entries.modify_eq_self {Key α : Type} [DecidableEq Key] {key : Key} {change : α → α}
    {entries : List (Key × α)} (distinct : (entries.map Prod.fst).Nodup)
    (same : ∀ value, find? key entries = some value → change value = value) :
    modify key change entries = entries := by
  refine (List.map_congr_left fun entry member => ?_).trans (List.map_id entries)
  split
  · rename_i here
    have found : find? key entries = some entry.2 := by
      rw [← here]
      exact (find?_eq_some_iff distinct).mpr member
    exact Prod.ext rfl (same entry.2 found)
  · rfl

theorem Directory.modify_eq_self {α : Type} {directory : Directory α} {name : Text}
    {change : α → α} (same : ∀ value, directory.find? name = some value → change value = value) :
    directory.modify name change = directory := by
  have entries := Entries.modify_eq_self directory.distinct same
  cases directory
  exact (Directory.mk.injEq ..).mpr entries

theorem Slab.modify_eq_self {α : Type} {slab : Slab α} {id : Nat} {change : α → α}
    (same : ∀ value, slab.find? id = some value → change value = value) :
    slab.modify id change = slab := by
  have entries := Entries.modify_eq_self slab.distinct same
  cases slab
  exact (Slab.mk.injEq ..).mpr ⟨entries, rfl⟩

section Writes

variable {profile : Profile} {server : Server} {roster : Roster} {number : Nat} {user : User}

/-- The directory has the client's record already. -/
theorem Registry.refresh_self (registry : Registry profile server roster)
    (here : roster number = some user) : server.refresh user = server := by
  unfold Server.refresh
  split
  · rename_i entry found
    split
    · rename_i own
      have listed := registry.found here own.1 rfl
      have same : server.users.modify user.nick (fun _ => user) = server.users :=
        Directory.modify_eq_self fun value known => by
          rw [listed] at known
          exact Option.some.inj known
      rw [same]
    · rfl
  · rfl

/-- A client that has given its nickname is identified already. -/
theorem Progressing.advance_self (progressing : Progressing profile server roster)
    (here : roster number = some user) (unregistered : user.registered = false) {nick : Text}
    (staged : user.nick? = some nick) : server.advance user.id .identified = server := by
  have halfway : user.progress = .identified := by
    refine User.progress_identified_iff.mpr fun same => ?_
    have both : user.progress = .registered :=
      User.progress_registered_iff.mpr ⟨by rw [staged]; rfl, by rw [← same, staged]; rfl⟩
    rw [(progressing.coherent here).mpr both] at unregistered
    cases unregistered
  have still : (server.connections.modify user.id fun c => c.advance .identified) =
      server.connections := by
    refine Slab.modify_eq_self fun connection found => ?_
    rw [progressing.connected here, halfway] at found
    cases found
    rfl
  rw [Server.advance, still]

/-- Before its registration a client is addressed in one way, whatever it has given. -/
theorem Server.reply_outrun (unregistered : user.registered = false) (username realname : Text)
    (reply : Reply) :
    (server.advance user.id .identified).reply (user.setUsername username realname).clearNick
      reply = server.reply user reply := by
  have profile : (server.advance user.id .identified).profile = server.profile := rfl
  have flag : (user.setUsername username realname).clearNick.registered = user.registered := rfl
  exact Server.reply_congr profile flag
    (fun known => by cases (flag.symm.trans known).symm.trans unregistered) reply

end Writes

namespace Refused

variable {profile : Profile} {message : Message} {server : Server} {user : User}
  {reaction : Reaction} {roster : Roster} {number : Nat}

theorem server_eq (refused : Refused message server user reaction)
    (progressing : Progressing profile server roster) (here : roster number = some user) :
    reaction.server = server := by
  cases refused with
  | told | ignored => rfl
  | mistaken => exact progressing.registry.refresh_self here
  | outrun _ unregistered staged => exact progressing.advance_self here unregistered staged

theorem relayed_eq (refused : Refused message server user reaction) : reaction.relayed = [] := by
  cases refused <;> rfl

/-- Only USER leaves something behind, and only when it comes to its handler. -/
theorem user_eq (refused : Refused message server user reaction) :
    reaction.user =
      if message.verb = .command .user ∧ reaction.verdict = .refused then
        { user with
          nick? := none, username? := some (message.param 0), realname := message.param 3 }
      else user := by
  cases refused with
  | told _ early =>
      rw [if_neg fun both => ?_]
      · rfl
      · cases (early both.1).symm.trans both.2
  | ignored ignored =>
      rw [if_neg fun both => ?_]
      · rfl
      · exact Message.not_ignored both.1 nofun ignored
  | mistaken asked =>
      rw [if_neg fun both => ?_]
      · rfl
      · cases asked.symm.trans both.1
  | outrun asked =>
      rw [if_pos ⟨asked, rfl⟩]
      rfl

theorem replies_of_ignored (refused : Refused message server user reaction)
    (ignored : message.Ignored user) : reaction.replies = [] := by
  cases refused with
  | told heard => exact absurd ignored heard
  | ignored => rfl
  | mistaken asked | outrun asked => exact absurd ignored (Message.not_ignored asked nofun)

theorem replies_of_heard (refused : Refused message server user reaction)
    (heard : ¬ message.Ignored user) : ∃ reply, reaction.replies = [server.reply user reply] := by
  cases refused with
  | told | mistaken => exact ⟨_, rfl⟩
  | ignored ignored => exact absurd ignored heard
  | outrun _ unregistered =>
      exact ⟨_, congrArg (fun line => [line]) (Server.reply_outrun unregistered _ _ _)⟩

theorem replies_of_user (refused : Refused message server user reaction)
    (asked : message.verb = .command .user) (turnedDown : reaction.verdict = .refused) :
    ∃ nick, user.nick? = some nick ∧
      reaction.replies = [server.reply user (.nicknameInUse nick)] := by
  cases refused with
  | told _ early => cases (early asked).symm.trans turnedDown
  | ignored ignored => exact absurd ignored (Message.not_ignored asked nofun)
  | mistaken other => cases asked.symm.trans other
  | outrun _ unregistered staged =>
      exact ⟨_, staged, congrArg (fun line => [line]) (Server.reply_outrun unregistered _ _ _)⟩

end Refused

/-! Targets that are turned down in the middle of a list. -/

/-- What JOIN and PART do for each name of their list. -/
def Message.onTarget (message : Message) : Text → Handler :=
  if message.verb = .command .join then Handler.joinOne else Handler.partOne (message.param 1)

/-- A name in the list of a JOIN or a PART that is turned down, with what is said. -/
inductive RefusedTarget (message : Message) (server : Server) (user : User) (name : Text) :
    Reply → Prop
  | invalid (asked : message.verb = .command .join)
      (invalid : ChannelName.isValid server.profile.channelLimit name = false) :
      RefusedTarget message server user name (.noSuchChannel name)
  | missing (asked : message.verb = .command .part)
      (missing : server.channels.find? name = none) :
      RefusedTarget message server user name (.noSuchChannel name)
  | outside {channel : Channel} (asked : message.verb = .command .part)
      (found : server.channels.find? name = some channel)
      (absent : channel.isMember user.nick = false) :
      RefusedTarget message server user name (.notOnChannel name)

namespace Handler

variable {message : Message} {server : Server} {user : User}

theorem onTarget_join (asked : message.verb = .command .join) : message.onTarget = joinOne :=
  if_pos asked

theorem onTarget_part (asked : message.verb = .command .part) :
    message.onTarget = partOne (message.param 1) := by
  refine if_neg ?_
  rw [asked]
  nofun

theorem onTarget_refused {name : Text} {refusal : Reply}
    (refused : RefusedTarget message server user name refusal) :
    message.onTarget name server user = say [refusal] server user := by
  cases refused with
  | invalid asked invalid =>
      rw [onTarget_join asked, joinOne, invalid]
      rfl
  | missing asked missing => rw [onTarget_part asked, partOne, missing]
  | outside asked found absent =>
      rw [onTarget_part asked, partOne, found]
      dsimp only
      rw [absent]
      rfl

/-- Going through a list leaves the client's record and the profile alone. -/
theorem onTarget_same (message : Message) (name : Text) (server : Server) (user : User) :
    (message.onTarget name server user).user = user ∧
      (message.onTarget name server user).server.profile = server.profile := by
  unfold Message.onTarget
  split
  · unfold joinOne
    split
    · exact ⟨rfl, rfl⟩
    · dsimp only
      split <;> exact ⟨rfl, rfl⟩
  · unfold partOne
    split
    · exact ⟨rfl, rfl⟩
    · split <;> exact ⟨rfl, rfl⟩

theorem forEach_onTarget (message : Message) (names : List Text) (server : Server) (user : User) :
    (forEach names message.onTarget server user).user = user ∧
      (forEach names message.onTarget server user).server.profile = server.profile := by
  induction names generalizing server with
  | nil => exact ⟨rfl, rfl⟩
  | cons name rest inductionHypothesis =>
      obtain ⟨sameUser, profile⟩ := onTarget_same message name server user
      rw [forEach_cons sameUser]
      obtain ⟨later, laterProfile⟩ := inductionHypothesis (message.onTarget name server user).server
      exact ⟨later, laterProfile.trans profile⟩

theorem forEach_append {α : Type} (first second : List α) (step : α → Handler) (server : Server)
    (user : User) :
    forEach (first ++ second) step server user =
      (forEach first step server user).andThen (forEach second step) := by
  induction first generalizing server user with
  | nil => rfl
  | cons item rest inductionHypothesis =>
      change (step item server user).andThen (forEach (rest ++ second) step) =
        ((step item server user).andThen (forEach rest step)).andThen (forEach second step)
      unfold Reaction.andThen
      rw [inductionHypothesis]
      simp [Reaction.andThen]

/-- An item of a list that changes nothing might as well not be there, but for what is said. -/
theorem forEach_refused {α : Type} {done : List α} {item : α} {step : α → Handler}
    {refusal : Reply} (rest : List α) (same : (forEach done step server user).user = user)
    (refused : step item (forEach done step server user).server user =
      say [refusal] (forEach done step server user).server user) :
    let without := forEach (done ++ rest) step server user
    let whole := forEach (done ++ item :: rest) step server user
    whole.server = without.server ∧ whole.user = without.user ∧
      whole.relayed = without.relayed ∧
      ∃ first last, without.replies = first ++ last ∧
        whole.replies =
          first ++ (forEach done step server user).server.reply user refusal :: last := by
  intro without whole
  have shorter : without =
      (forEach done step server user).andThen (forEach rest step) := forEach_append _ _ _ _ _
  have longer : whole = (forEach done step server user).andThen fun server user =>
      (step item server user).andThen (forEach rest step) := forEach_append _ _ _ _ _
  rw [shorter, longer]
  simp only [Reaction.andThen, same, refused]
  exact ⟨rfl, rfl, rfl, _, _, rfl, rfl⟩

/-- JOIN and PART of a registered client come down to their lists. -/
theorem handle_list (listed : message.verb = .command .join ∨ message.verb = .command .part)
    (registered : user.registered = true) (given : (message.param 0).pieces ≠ []) :
    handle message server user =
      forEach (message.param 0).pieces message.onTarget server user := by
  have some : message.params ≠ [] := by
    intro none
    rw [Message.param, none] at given
    exact given (by decide)
  have enough : 1 ≤ message.params.length := List.length_pos_iff.mpr some
  rcases listed with asked | asked
  · rw [handle_eq_run asked registered (by decide) enough, onTarget_join asked]
    rfl
  · rw [handle_eq_run asked registered (by decide) enough, onTarget_part asked]
    rfl

end Handler

namespace Network

variable {profile : Profile} {network : Network} {number : Nat} {client : Client}
  {message : Message}

theorem step_refused (orderly : network.Orderly)
    (progressing : Progressing profile network.server network.roster)
    (found : network.client? number = some client) (live : client.live = true)
    (listening : client.listening = true) {reaction : Reaction}
    (handled : Handler.handle message network.server client.user = reaction)
    (refused : Refused message network.server client.user reaction) :
    (network.step (.said number message)).closed = false ∧
      (network.step (.said number message)).network.server = network.server ∧
      (∀ other, (network.step (.said number message)).network.client? other =
        if other = number then some { client with user := reaction.user }
        else network.client? other) ∧
      ∀ other, (network.step (.said number message)).linesFor other =
        if other = number then reaction.replies else [] := by
  have staying : reaction.user.quitReason = none := by
    rw [refused.user_eq]
    split <;> exact (orderly number client found).2 live
  obtain ⟨after, stays, lines⟩ :=
    step_answered orderly found live listening handled staying
  refine ⟨stays, ?_, fun other => ?_, fun other => ?_⟩
  · rw [after]
    exact refused.server_eq progressing (roster_of_client found live)
  · rw [after, client?_reacted found]
  · rw [lines, refused.relayed_eq]
    simp [linesTo]

theorem step_refusedTarget (orderly : network.Orderly)
    (found : network.client? number = some client) (live : client.live = true)
    (listening : client.listening = true) (registered : client.user.registered = true)
    {done rest : List Text} {name : Text} {refusal : Reply}
    (listed : (message.param 0).pieces = done ++ name :: rest)
    (refused : RefusedTarget message
      (Handler.forEach done message.onTarget network.server client.user).server client.user name
      refusal) :
    let without := Handler.forEach (done ++ rest) message.onTarget network.server client.user
    (network.step (.said number message)).closed = false ∧
      (network.step (.said number message)).network = network.reacted number client without ∧
      ∃ first last, without.replies = first ++ last ∧
        ∀ other, (network.step (.said number message)).linesFor other =
          (if network.isListening other then linesTo other without.relayed else []) ++
            if other = number then
              first ++ network.server.reply client.user refusal :: last
            else [] := by
  intro without
  have asked : message.verb = .command .join ∨ message.verb = .command .part := by
    cases refused with
    | invalid asked => exact .inl asked
    | missing asked | outside asked => exact .inr asked
  have given : (message.param 0).pieces ≠ [] := by
    rw [listed]
    exact List.append_ne_nil_of_right_ne_nil _ (List.cons_ne_nil _ _)
  have handled := @Handler.handle_list message network.server client.user asked registered given
  rw [listed] at handled
  obtain ⟨sameUser, profileSame⟩ :=
    Handler.forEach_onTarget message done network.server client.user
  obtain ⟨server, user, relayed, first, last, shorter, longer⟩ :=
    Handler.forEach_refused rest sameUser (Handler.onTarget_refused refused)
  have unchanged := (Handler.forEach_onTarget message (done ++ rest) network.server client.user).1
  have staying : (Handler.forEach (done ++ name :: rest) message.onTarget network.server
      client.user).user.quitReason = none := by
    rw [user, unchanged]
    exact (orderly number client found).2 live
  obtain ⟨after, stays, lines⟩ := step_answered orderly found live listening handled staying
  have said : (Handler.forEach done message.onTarget network.server client.user).server.reply
      client.user refusal = network.server.reply client.user refusal :=
    Server.reply_congr profileSame rfl (fun _ => rfl) refusal
  refine ⟨stays, ?_, first, last, shorter, fun other => ?_⟩
  · rw [after, reacted, server, user]
    rfl
  · rw [lines, relayed, longer, said]

/-- A message that is turned down changes nothing, is heard of by nobody else, and is answered with
one reply or with none.  Only the names that a USER has given stay with its client.  A name in the
list of a JOIN or of a PART that is turned down might as well not be there, but for one reply. -/
theorem refusal_is_atomic (profile : Profile) (events : List Event) (number : Nat)
    (client : Client) (message : Message)
    (found : ((new profile).after events).client? number = some client)
    (live : client.live = true) (listening : client.listening = true) :
    let network := (new profile).after events
    let reaction := Handler.handle message network.server client.user
    let outcome := network.step (.said number message)
    let say := network.server.reply client.user
    (reaction.verdict ≠ .accepted →
      outcome.closed = false ∧ outcome.network.server = network.server ∧
      (∀ other, other ≠ number →
        outcome.network.client? other = network.client? other ∧ outcome.linesFor other = []) ∧
      outcome.network.client? number = some
        (if message.verb = .command .user ∧ reaction.verdict = .refused then
          { client with
            user := { client.user with
              nick? := none
              username? := some (message.param 0)
              realname := message.param 3 } }
        else client) ∧
      (message.verb = .command .user → reaction.verdict = .refused →
        ∃ nick, client.user.nick? = some nick ∧
          outcome.linesFor number = [say (.nicknameInUse nick)]) ∧
      (message.Ignored client.user → outcome.linesFor number = []) ∧
      (¬ message.Ignored client.user → ∃ reply, outcome.linesFor number = [say reply])) ∧
    ∀ done name rest refusal, client.user.registered = true →
      (message.param 0).pieces = done ++ name :: rest →
      RefusedTarget message
        (Handler.forEach done message.onTarget network.server client.user).server client.user
        name refusal →
      let without := Handler.forEach (done ++ rest) message.onTarget network.server client.user
      outcome.closed = false ∧ outcome.network = network.reacted number client without ∧
      ∃ first last, without.replies = first ++ last ∧
        ∀ other, outcome.linesFor other =
          (if network.isListening other then linesTo other without.relayed else []) ++
            if other = number then first ++ say refusal :: last else [] := by
  intro network reaction outcome say
  have orderly := orderly_after profile events
  refine ⟨fun turnedDown => ?_, fun done name rest refusal registered listed refused =>
    step_refusedTarget orderly found live listening registered listed refused⟩
  have refused : Refused message network.server client.user reaction :=
    Handler.handle_refused turnedDown
  obtain ⟨stays, same, clients, lines⟩ := step_refused orderly
    (progressing_after profile events) found live listening rfl refused
  have own : outcome.linesFor number = reaction.replies := (lines number).trans (if_pos rfl)
  refine ⟨stays, same, fun other differs => ⟨?_, ?_⟩, ?_, fun asked verdict => ?_,
    fun ignored => ?_, fun heard => ?_⟩
  · exact (clients other).trans (if_neg differs)
  · exact (lines other).trans (if_neg differs)
  · rw [clients, if_pos rfl, refused.user_eq]
    split <;> rfl
  · rw [own]
    exact refused.replies_of_user asked verdict
  · rw [own]
    exact refused.replies_of_ignored ignored
  · rw [own]
    exact refused.replies_of_heard heard

/-- A nickname that is taken, and a channel that is not there. -/
theorem refusal_of_teaRun :
    let network := (new teaProfile).after teaRun
    let taken : Message := ⟨none, .command .nick, ["ANN"], false⟩
    let parting : Message := ⟨none, .command .part, ["#no,#tea"], false⟩
    ∃ client, network.client? 1 = some client ∧
      ((network.step (.said 1 taken)).network.server = network.server ∧
        (network.step (.said 1 taken)).network.client? 1 = some client ∧
        (network.step (.said 1 taken)).linesFor 0 = [] ∧
        ∃ reply, (network.step (.said 1 taken)).linesFor 1 =
          [network.server.reply client.user reply]) ∧
      (network.step (.said 1 parting)).network = network.reacted 1 client
        (Handler.forEach [("#tea" : Text)] parting.onTarget network.server client.user) := by
  intro network taken parting
  have speaker : (network.client? 1).map (fun client =>
      (client.live, client.listening, client.user.registered,
        (Handler.handle taken network.server client.user).verdict)) =
      some (true, true, true, .refused) := by decide +kernel
  obtain ⟨client, found, same⟩ := Option.map_eq_some_iff.mp speaker
  simp only [Prod.mk.injEq] at same
  obtain ⟨live, listening, registered, refused⟩ := same
  have missing : network.server.channels.find? "#no" = none := by decide +kernel
  have heard : ¬ taken.Ignored client.user := Message.not_ignored rfl nofun
  -- Spelled with `network` itself, the facts are not compared by running the run.
  have after : network = (new teaProfile).after teaRun := rfl
  have refusal := refusal_is_atomic teaProfile teaRun 1 client taken found live listening
  have passing := refusal_is_atomic teaProfile teaRun 1 client parting found live listening
  rw [← after] at refusal passing
  obtain ⟨_, still, others, own, _, _, answered⟩ := refusal.1 (by rw [refused]; nofun)
  refine ⟨client, found, ⟨?_, ?_, ?_, ?_⟩, ?_⟩
  · exact still
  · exact own.trans (congrArg some (if_neg fun both => by cases both.1))
  · exact (others 0 (by decide)).2
  · exact answered heard
  · have absent : RefusedTarget parting
        (Handler.forEach [] parting.onTarget network.server client.user).server client.user
        "#no" (.noSuchChannel "#no") := by
      simp only [Handler.forEach, Handler.say, Handler.answer]
      exact .missing rfl missing
    exact (passing.2 [] "#no" ["#tea"] _ registered (by decide) absent).2.1

/-- A NOTICE is not answered by its own command, but before registration it does not come to it. -/
theorem notice_is_answered_before_registration :
    ¬ ∀ (events : List Event) (number : Nat) (client : Client) (message : Message),
      ((new teaProfile).after events).client? number = some client → client.live = true →
      client.listening = true → message.verb = .command .notice →
      (Handler.handle message ((new teaProfile).after events).server client.user).verdict ≠
        .accepted →
      (((new teaProfile).after events).step (.said number message)).linesFor number = [] := by
  intro silent
  have speaker : (((new teaProfile).after [.connected "east"]).client? 0).map (fun client =>
      (client.live, client.listening,
        (Handler.handle ⟨none, .command .notice, ["ann", "hi"], true⟩
          ((new teaProfile).after [.connected "east"]).server client.user).verdict)) =
      some (true, true, .rejected) := by decide +kernel
  obtain ⟨client, found, same⟩ := Option.map_eq_some_iff.mp speaker
  simp only [Prod.mk.injEq] at same
  obtain ⟨live, listening, rejected⟩ := same
  have unanswered := silent [.connected "east"] 0 client
    ⟨none, .command .notice, ["ann", "hi"], true⟩ found live listening rfl
    (by rw [rejected]; nofun)
  have answered : (((new teaProfile).after [.connected "east"]).step
      (.said 0 ⟨none, .command .notice, ["ann", "hi"], true⟩)).linesFor 0 ≠ [] := by
    decide +kernel
  exact answered unanswered

end Network

end IrcServer
