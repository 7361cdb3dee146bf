import IrcServer.Proofs.ChannelDirectory
import IrcServer.Proofs.Deeds

namespace IrcServer

/-! Where the flags of channel operators come from.

The deeds of a message are read in the server that it has come to, while its acts are done one
after another.  `Steady` is what makes the two agree: a channel that a JOIN creates is not listed
when the message comes, and a MODE leaves nicknames alone.
-/

/-- What a message reads on its way it could have read at the start. -/
structure Steady (message : Message) (start server : Server) (user : User) : Prop where
  listed : message.verb = .command .join → ∀ {name channel},
    (server.channels.find? name).getD (.new name) = channel →
      channel.isMember user.nick = false →
        start.channels.contains name = server.channels.contains name
  users : message.verb = .command .mode → server.users = start.users

namespace Steady

variable {message : Message} {start server : Server} {user : User} {reaction : Reaction}

theorem refl : Steady message start start user :=
  ⟨fun _ _ _ _ _ => rfl, fun _ => rfl⟩

theorem of_verb (notJoin : message.verb ≠ .command .join) (notMode : message.verb ≠ .command .mode) :
    Steady message start server user :=
  ⟨fun join => absurd join notJoin, fun mode => absurd mode notMode⟩

theorem act (steady : Steady message start server user) (act : Act message server user reaction) :
    Steady message start reaction.server reaction.user := by
  cases act with
  | still => exact steady
  | marked asked => rcases asked with away | oper <;> exact .of_verb (by simp [*]) (by simp [*])
  | empowered asked => exact .of_verb (by simp [asked]) (by simp [asked])
  | parted asked => exact .of_verb (by simp [asked]) (by simp [asked])
  | titled asked => exact .of_verb (by simp [asked]) (by simp [asked])
  | renamed asked => exact .of_verb (by simp [asked]) (by simp [asked])
  | named asked => exact .of_verb (by simp [asked]) (by simp [asked])
  | introduced asked => exact .of_verb (by simp [asked]) (by simp [asked])
  | enrolled _ giving =>
      rcases giving with ⟨nick, _⟩ | ⟨introduced, _⟩ <;>
        exact .of_verb (by simp [*]) (by simp [*])
  | changed asked =>
      refine ⟨fun join => ?_, steady.users⟩
      cases asked.symm.trans join
  | @joined name channel asked _ _ _ listed _ absent =>
      refine ⟨fun _ {label other} known unknown => ?_, fun mode => ?_⟩
      · unfold Directory.contains
        dsimp only [Handler.entered] at known unknown ⊢
        rw [Server.find?_setChannel] at known ⊢
        split at known
        · cases known
          cases unknown.symm.trans ((Channel.isMember_append channel _ _).mpr (.inr rfl))
        · rename_i differs
          rw [if_neg differs]
          exact steady.listed asked known unknown
      · cases asked.symm.trans mode

end Steady

/-- Every member's flag is the one that its client has by all deeds so far. -/
structure Flagged (history : List Deed) (server : Server) (roster : Roster) : Prop where
  flag : ∀ {name channel member number holder}, server.channels.find? name = some channel →
    member ∈ channel.members → roster number = some holder → holder.registered = true →
      holder.nick.fold = member.key → member.operator = Deed.standing history number name

namespace Flagged

variable {history : List Deed} {profile : Profile} {start server later : Server}
  {roster remaining : Roster} {user : User}

theorem mono (flagged : Flagged history server roster)
    (members : ∀ {name channel member}, later.channels.find? name = some channel →
      member ∈ channel.members → ∃ old, server.channels.find? name = some old ∧ member ∈ old.members)
    (holders : ∀ {number holder}, remaining number = some holder → holder.registered = true →
      ∃ old, roster number = some old ∧ old.registered = true ∧ old.nick = holder.nick) :
    Flagged history later remaining := by
  refine ⟨fun found present there registered named => ?_⟩
  obtain ⟨channel, oldFound, oldPresent⟩ := members found present
  obtain ⟨old, oldThere, oldRegistered, same⟩ := holders there registered
  exact flagged.flag oldFound oldPresent oldThere oldRegistered (same ▸ named)

/-- A change of one record that registers nobody and keeps the nicknames. -/
theorem frame (flagged : Flagged history server roster) (here : roster user.queue = some user)
    {present : User} (channels : later.channels = server.channels)
    (same : present.registered = true → user.registered = true ∧ user.nick = present.nick) :
    Flagged history later (Function.update roster user.queue (some present)) := by
  refine flagged.mono (fun found member => ⟨_, channels ▸ found, member⟩) fun there registered => ?_
  rcases Roster.of_update there with ⟨rfl, rfl⟩ | ⟨_, old⟩
  · exact ⟨user, here, same registered⟩
  · exact ⟨_, old, registered, rfl⟩

/-- A deed about one client in one channel, which changes in nothing else. -/
theorem place (flagged : Flagged history server roster) {name label : Text} {channel : Channel}
    {deed : Deed} {client : Nat} {flag : Bool} (same : label.fold = name.fold)
    (flags : ∀ number other, deed.flagFor number other =
      if client = number ∧ label.fold = other.fold then some flag else none)
    (members : ∀ {member number holder}, member ∈ channel.members → roster number = some holder →
      holder.registered = true → holder.nick.fold = member.key →
        number = client ∧ member.operator = flag ∨
          number ≠ client ∧ member.operator = Deed.standing history number name) :
    Flagged (history ++ [deed]) (server.setChannel name channel) roster := by
  refine ⟨fun {other changed member number holder} found present there registered named => ?_⟩
  rw [Server.find?_setChannel] at found
  split at found
  · rename_i here
    cases found
    rw [Deed.standing_congr here]
    rcases members present there registered named with ⟨rfl, given⟩ | ⟨differs, kept⟩
    · have bears : deed.flagFor number name = some flag := by rw [flags, if_pos ⟨rfl, same⟩]
      rw [Deed.standing_concat bears, given]
    · have idle : deed.flagFor number name = none := by
        rw [flags, if_neg fun both => differs both.1.symm]
      rw [Deed.standing_append (by simpa using idle), kept]
  · rename_i elsewhere
    have idle : deed.flagFor number other = none := by
      rw [flags, if_neg fun both => elsewhere (both.2.symm.trans same)]
    rw [Deed.standing_append (by simpa using idle)]
    exact flagged.flag found present there registered named

theorem join (flagged : Flagged history server roster)
    (consistent : Consistent profile server roster) (here : roster user.queue = some user)
    (registered : user.registered = true) {name : Text} {channel : Channel}
    (valid : ChannelName.isValid profile.channelLimit name = true)
    (listed : (server.channels.find? name).getD (.new name) = channel)
    (absent : channel.isMember user.nick = false) :
    Flagged (history ++ [.joined user.queue channel.name (!server.channels.contains name)])
      (server.setChannel name
        { channel with
          members := channel.members ++ [⟨user.nick, (server.channels.find? name).isNone⟩] })
      roster := by
  obtain ⟨_, _, same, _, _⟩ := consistent.joinable valid listed
  refine flagged.place same (fun _ _ => rfl) fun {member number holder} present there
    holderRegistered named => ?_
  rcases List.mem_append.mp present with old | new
  · refine .inr ⟨?_, ?_⟩
    · rintro rfl
      cases here.symm.trans there
      cases absent.symm.trans (any_isNamed_iff.mpr ⟨member, old, named.symm⟩)
    · cases known : server.channels.find? name with
      | none =>
          rw [known, Option.getD_none] at listed
          subst listed
          cases old
      | some found =>
          rw [known, Option.getD_some] at listed
          subst listed
          exact flagged.flag known old there holderRegistered named
  · obtain rfl := List.mem_singleton.mp new
    have own := consistent.registry.eq_of_fold_eq there here holderRegistered registered named
    subst own
    have creating : (!server.channels.contains name) = (server.channels.find? name).isNone :=
      Option.not_isSome _
    exact .inl ⟨(consistent.registry.numbered there).symm, creating.symm⟩

theorem change (flagged : Flagged history server roster)
    (consistent : Consistent profile server roster) {name : Text} {channel : Channel}
    (found : server.channels.find? name = some channel) {nick : Text} {target : User}
    (listed : server.users.find? nick = some target) (issuer : Nat) (enabled : Bool) :
    Flagged (history ++ [.changed issuer target.queue channel.name enabled])
      (server.setChannel name (channel.setOperator nick enabled).2) roster := by
  have same : channel.name.fold = name.fold := consistent.keyed.fold_eq found
  obtain ⟨here, registered, targeted⟩ := consistent.registry.listed.mp listed
  rw [Channel.setOperator_snd (consistent.sound found).distinct]
  refine flagged.place same (fun _ _ => rfl) fun {member number holder} present there
    holderRegistered named => ?_
  obtain ⟨old, oldPresent, rfl⟩ := List.mem_map.mp present
  by_cases changed : old.key = nick.fold
  · rw [if_pos changed] at named ⊢
    have own := consistent.registry.eq_of_fold_eq there here holderRegistered registered
      (named.trans (changed.trans targeted.symm))
    subst own
    exact .inl ⟨(consistent.registry.numbered there).symm, rfl⟩
  · rw [if_neg changed] at named ⊢
    refine .inr ⟨?_, flagged.flag found oldPresent there holderRegistered named⟩
    rintro rfl
    cases here.symm.trans there
    exact changed (named.symm.trans targeted)

theorem rename (flagged : Flagged history server roster)
    (consistent : Consistent profile server roster) (here : roster user.queue = some user)
    (registered : user.registered = true) {nick : Text}
    (free : server.heldByOther user nick = false) :
    Flagged history (server.rename user nick)
      (Function.update roster user.queue (some (user.setNick nick))) := by
  refine ⟨fun {name renamed member number holder} known present there holderRegistered named => ?_⟩
  unfold Server.rename at known
  rw [Directory.find?_map] at known
  obtain ⟨channel, found, rfl⟩ := Option.map_eq_some_iff.mp known
  rw [Channel.rename_snd (consistent.sound found).distinct] at present
  obtain ⟨old, oldPresent, rfl⟩ := List.mem_map.mp present
  rcases Roster.of_update there with ⟨rfl, rfl⟩ | ⟨differs, stands⟩
  · by_cases mine : old.key = user.nick.fold
    · have before := flagged.flag found oldPresent here registered mine.symm
      rw [if_pos mine]
      exact before
    · rw [if_neg mine] at named
      exact absurd (consistent.free_in_channel here free found oldPresent named.symm) mine
  · by_cases mine : old.key = user.nick.fold
    · -- Another client would have the new name, which was free.
      rw [if_pos mine] at named
      have listed := consistent.registry.found stands holderRegistered named
      have one := consistent.registry.eq_of_not_heldByOther here free listed
      subst one
      exact absurd (consistent.registry.numbered stands).symm differs
    · rw [if_neg mine] at named ⊢
      exact flagged.flag found oldPresent stands holderRegistered named

theorem enroll (flagged : Flagged history server roster)
    (consistent : Consistent profile server roster) {present : User}
    (channels : later.channels = server.channels)
    (free : server.users.contains present.nick = false) :
    Flagged history later (Function.update roster user.queue (some present)) := by
  refine ⟨fun found member there registered named => ?_⟩
  rw [channels] at found
  rcases Roster.of_update there with ⟨_, rfl⟩ | ⟨_, old⟩
  · have absent := consistent.isMember_free free found
    cases absent.symm.trans (any_isNamed_iff.mpr ⟨_, member, named.symm⟩)
  · exact flagged.flag found member old registered named

theorem act (flagged : Flagged history server roster)
    (consistent : Consistent profile server roster) (here : roster user.queue = some user)
    {message : Message} {reaction : Reaction} (steady : Steady message start server user)
    (act : Act message server user reaction) :
    Flagged (history ++ Deed.ofLines start user.queue reaction.replies) reaction.server
      (Function.update roster user.queue (some reaction.user)) := by
  have unchanged : Function.update roster user.queue (some user) = roster := by
    rw [← here, Function.update_eq_self]
  cases act with
  | still _ answers =>
      rw [Deed.ofLines_answers answers, List.append_nil, unchanged]
      exact flagged
  | marked _ _ answers =>
      rw [Deed.ofLines_answers answers, List.append_nil]
      exact flagged.frame here (Server.refresh_channels _ _) fun registered => ⟨registered, rfl⟩
  | empowered _ _ answers =>
      rw [Deed.ofLines_answers answers, List.append_nil]
      exact flagged.frame here (Server.refresh_channels _ _) fun registered => ⟨registered, rfl⟩
  | @joined name channel asked _ registered valid listed _ absent =>
      have validHere := consistent.registry.profileEq ▸ valid
      obtain ⟨_, _, same, _, _⟩ := consistent.joinable validHere listed
      -- The line is read in the server at the start, and the flag is given in the present one.
      have creating : start.channels.contains channel.name = server.channels.contains name := by
        rw [Directory.contains_congr same, steady.listed asked listed absent]
      have deeds := @Deed.ofLine_join start user user.queue channel.name
      dsimp only [Handler.entered]
      rw [unchanged, Deed.ofLines, List.filterMap_cons_some deeds, creating, ← Deed.ofLines,
        Deed.ofLines_replies]
      exact flagged.join consistent here registered validHere listed absent
  | parted _ _ found =>
      rw [Handler.partLine, Deed.ofLines_line Command.noConfusion Command.noConfusion,
        List.append_nil, unchanged]
      refine flagged.mono (fun {name left member} known present => ?_)
        fun there registered => ⟨_, there, registered, rfl⟩
      obtain ⟨old, oldFound, members, rfl, kept⟩ := Server.of_find?_leaveChannel known
      exact ⟨old, oldFound, kept present⟩
  | @changed change channel asked _ found present =>
      obtain ⟨member, memberPresent, key⟩ := any_isNamed_iff.mp present
      obtain ⟨target, there, registered, named⟩ := consistent.client_of_member found memberPresent
      have listed : server.users.find? change.nick = some target :=
        consistent.registry.found there registered ((congrArg Text.fold named).trans key)
      have deeds : Deed.ofLine start user.queue (Handler.changeLine user channel change) =
          some (.changed user.queue target.queue channel.name change.enabled) := by
        rw [Deed.ofLine_change, ← steady.users asked, listed, Option.map_some]
      rw [unchanged, Deed.ofLines, List.filterMap_cons_some deeds]
      exact flagged.change consistent found listed _ _
  | @titled name title channel _ _ found =>
      rw [Deed.ofLines_line Command.noConfusion Command.noConfusion, List.append_nil, unchanged]
      refine flagged.mono (fun {label titled member} known present => ?_)
        fun there registered => ⟨_, there, registered, rfl⟩
      rw [Server.find?_setChannel] at known
      split at known
      · rename_i same
        cases known
        exact ⟨channel, (Directory.find?_congr same).trans found, present⟩
      · exact ⟨titled, known, present⟩
  | renamed _ registered _ _ free =>
      rw [Deed.ofLines_line Command.noConfusion Command.noConfusion, List.append_nil]
      exact flagged.rename consistent here registered free
  | named _ unregistered =>
      have silent : Deed.ofLines start user.queue [] = [] := rfl
      rw [silent, List.append_nil]
      exact flagged.frame here rfl fun registered => by cases unregistered.symm.trans registered
  | introduced _ _ unregistered answers =>
      rw [Deed.ofLines_answers answers, List.append_nil]
      exact flagged.frame here rfl fun registered => by cases unregistered.symm.trans registered
  | @enrolled nick username given _ _ nickGiven _ free =>
      have named : given.nick = nick := by rw [User.nick, nickGiven, Option.getD_some]
      dsimp only [Handler.enrolled]
      rw [Deed.ofLines_replies, List.append_nil]
      refine flagged.enroll consistent rfl ?_
      rw [← named] at free
      exact free

theorem acts {message : Message} {reaction : Reaction} (acts : Acts message server user reaction)
    (flagged : Flagged history server roster) (consistent : Consistent profile server roster)
    (here : roster user.queue = some user) (staying : user.quitReason = none)
    (steady : Steady message start server user) :
    Flagged (history ++ Deed.ofLines start user.queue reaction.replies) reaction.server
      (Function.update roster user.queue (some reaction.user.settled)) := by
  induction acts generalizing history roster with
  | @quit server user reason asked =>
      have unchanged : (Handler.quit reason server user).user.settled = user :=
        User.settled_eq staying
      have silent : Deed.ofLines start user.queue (Handler.quit reason server user).replies = [] :=
        rfl
      rw [unchanged, ← here, Function.update_eq_self, silent, List.append_nil]
      exact flagged
  | last act =>
      rw [User.settled_eq (act.samePerson.2.2.2.trans staying)]
      exact flagged.act consistent here steady act
  | @next server user first rest act _ inductionHypothesis =>
      obtain ⟨queue, _, _, quitReason⟩ := act.samePerson
      have later := inductionHypothesis (flagged.act consistent here steady act)
        (consistent.act here act) (by rw [queue, Function.update_self])
        (quitReason.trans staying) (steady.act act)
      rw [queue, Function.update_idem] at later
      rw [Deed.ofLines_append, ← List.append_assoc]
      exact later

theorem depart (flagged : Flagged history server roster)
    (error : Option Text) :
    Flagged history (server.depart user error).1 (Function.update roster user.queue none) := by
  refine flagged.mono (fun {name left member} known present => ?_) fun {number holder} there
    registered => ?_
  · obtain ⟨old, oldFound, members, rfl, kept⟩ := Server.of_find?_depart known
    exact ⟨old, oldFound, kept present⟩
  · exact ⟨holder, (Roster.of_update_none there).2, registered, rfl⟩

/-- Without messages there are no deeds. -/
theorem kept (profile : Profile) (history : List Deed) :
    Kept profile (fun event => ∀ number message, event ≠ .said number message)
      (Flagged history) where
  new := ⟨fun found => by cases found⟩
  connect {server roster number host} _ flagged unused := by
    refine flagged.mono (fun found present => ⟨_, found, present⟩) fun there registered => ?_
    rcases Roster.of_update there with ⟨_, rfl⟩ | ⟨_, old⟩
    · cases registered
    · exact ⟨_, old, registered, rfl⟩
  act silent _ _ _ := absurd rfl (silent _ _)
  depart error flagged _ := flagged.depart error

theorem step {network : Network} (orderly : network.Orderly)
    (consistent : Consistent profile network.server network.roster)
    (flagged : Flagged history network.server network.roster) (event : Event) :
    Flagged (history ++ network.deeds event) (network.step event).network.server
      (network.step event).network.roster := by
  unfold Network.deeds
  split
  · rename_i number client message heard
    obtain ⟨rfl, found, live⟩ := Network.speaker?_eq_some_iff.mp heard
    obtain ⟨queue, staying⟩ := orderly number client found
    subst queue
    have reacted := flagged.acts (Handler.handle_acts message network.server client.user)
      consistent (Network.roster_of_client found live) (staying live) .refl
    rw [Network.step_said found live]
    exact Network.handle_holds orderly found live reacted fun error holds _ => holds.depart error
  · rename_i silent
    rw [List.append_nil]
    by_cases spoken : ∃ number message, event = .said number message
    · obtain ⟨number, message, rfl⟩ := spoken
      rw [Network.step_unheard silent]
      exact flagged
    · exact (kept profile history).step orderly flagged fun number message same =>
        spoken ⟨number, message, same⟩

end Flagged

theorem Network.flagged_after (profile : Profile) (events : List Event) :
    Flagged ((new profile).history events) ((new profile).after events).server
      ((new profile).after events).roster := by
  induction events using List.reverseRecOn with
  | nil => exact (Flagged.kept profile []).new
  | append_singleton events event inductionHypothesis =>
      rw [history, gathered_append, after_append]
      exact inductionHypothesis.step (orderly_after profile events)
        (consistent_after profile events) event

end IrcServer
