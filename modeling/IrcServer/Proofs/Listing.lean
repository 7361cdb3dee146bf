import IrcServer.Proofs.Commute
import IrcServer.Proofs.Renaming
import IrcServer.Proofs.Whois

namespace IrcServer

/-! Servers that list the same channels in different orders.

`Server.Alike` looks at a directory through its look-ups only.  Whatever a client says to two such
servers, they answer the same, tell everybody else the same and are alike again: lists of channels
are sorted by name, and the peers of a client are each told once in whatever order they come. -/

theorem Text.le_antisymm {first second : Text} (left : first.le second = true)
    (right : second.le first = true) : first = second := by
  induction first generalizing second with
  | nil =>
      cases second with
      | nil => rfl
      | cons => cases right
  | cons a first inductionHypothesis =>
      cases second with
      | nil => cases left
      | cons b second =>
          simp only [le, Bool.or_eq_true, decide_eq_true_eq, Bool.and_eq_true, beq_iff_eq]
            at left right
          rcases left with less | ⟨rfl, left⟩
          · rcases right with more | ⟨rfl, _⟩
            · exact absurd more (Nat.lt_asymm less)
            · exact absurd less (Nat.lt_irrefl _)
          · rcases right with more | ⟨_, right⟩
            · exact absurd more (Nat.lt_irrefl _)
            · rw [inductionHypothesis left right]

namespace Server

namespace Alike

variable {left right middle : Server}

theorem refl (server : Server) : server.Alike server :=
  ⟨rfl, rfl, rfl, rfl, fun _ => rfl⟩

theorem symm (alike : left.Alike right) : right.Alike left where
  profile := alike.profile.symm
  users := alike.users.symm
  connections := alike.connections.symm
  operators := alike.operators.symm
  channels name := (alike.channels name).symm

theorem trans (first : left.Alike middle) (second : middle.Alike right) : left.Alike right where
  profile := first.profile.trans second.profile
  users := first.users.trans second.users
  connections := first.connections.trans second.connections
  operators := first.operators.trans second.operators
  channels name := (first.channels name).trans (second.channels name)

theorem sameAt (alike : left.Alike right) (name : Text) : left.SameAt name right :=
  ⟨alike.profile, alike.users, alike.channels name⟩

/-- The same change to one channel of both. -/
theorem change (alike : left.Alike right) {name : Text} {one two : Server}
    (besideLeft : left.SameBeside name one) (besideRight : right.SameBeside name two)
    (same : one.SameAt name two) : one.Alike two where
  profile := same.profile
  users := same.users
  connections := besideLeft.connections.trans (alike.connections.trans besideRight.connections.symm)
  operators := besideLeft.operators.trans (alike.operators.trans besideRight.operators.symm)
  channels other := by
    by_cases here : other.fold = name.fold
    · rw [Directory.find?_congr here, Directory.find?_congr here, same.channel]
    · rw [besideLeft.channels other here, besideRight.channels other here, alike.channels]

theorem reply (alike : left.Alike right) (user : User) : left.reply user = right.reply user :=
  (alike.sameAt []).reply user

theorem namesReplies (alike : left.Alike right) (channel : Channel) :
    left.namesReplies channel = right.namesReplies channel :=
  (alike.sameAt []).namesReplies channel

theorem refresh (alike : left.Alike right) (user : User) :
    (left.refresh user).Alike (right.refresh user) := by
  unfold Server.refresh
  rw [alike.users]
  split
  · split
    · exact ⟨alike.profile, rfl, alike.connections, alike.operators, alike.channels⟩
    · exact alike
  · exact alike

theorem advance (alike : left.Alike right) (id : Nat) (state : ConnectionState) :
    (left.advance id state).Alike (right.advance id state) := by
  refine ⟨alike.profile, alike.users, ?_, alike.operators, alike.channels⟩
  unfold Server.advance
  rw [alike.connections]

theorem enroll (alike : left.Alike right) (nick : Text) (user : User) :
    (left.enroll nick user).Alike (right.enroll nick user) := by
  have entered : Alike { left with users := left.users.insert nick user }
      { right with users := right.users.insert nick user } :=
    ⟨alike.profile, congrArg (·.insert nick user) alike.users, alike.connections, alike.operators,
      alike.channels⟩
  exact entered.advance user.id .registered

theorem rename (alike : left.Alike right) (user : User) (nick : Text) :
    (left.rename user nick).Alike (right.rename user nick) := by
  unfold Server.rename
  refine ⟨alike.profile, ?_, alike.connections, alike.operators, fun name => ?_⟩
  · rw [alike.users]
  · rw [Directory.find?_map, Directory.find?_map, alike.channels]

theorem disconnect (alike : left.Alike right) (id : Nat) :
    (left.disconnect id).Alike (right.disconnect id) := by
  refine ⟨alike.profile, alike.users, ?_, alike.operators, alike.channels⟩
  unfold Server.disconnect
  rw [alike.connections]

section Listed

variable (alike : left.Alike right) (keyedLeft : left.channels.Keyed Channel.name)
  (keyedRight : right.channels.Keyed Channel.name)

include alike keyedLeft keyedRight

/-- What is found in two directories under the same names is the same but for its order. -/
theorem entries_perm : left.channels.entries.Perm right.channels.entries := by
  refine (List.perm_ext_iff_of_nodup (left.channels.distinct.of_map _)
    (right.channels.distinct.of_map _)).mpr fun entry => ?_
  rw [keyedLeft.mem_entries_iff, keyedRight.mem_entries_iff, alike.channels]

theorem mem_values_iff {channel : Channel} :
    channel ∈ left.channels.values ↔ channel ∈ right.channels.values := by
  rw [keyedLeft.mem_values_iff, keyedRight.mem_values_iff, alike.channels]

theorem size_eq : left.channels.size = right.channels.size :=
  (alike.entries_perm keyedLeft keyedRight).length_eq

/-- No two channels have the same name, so that there is only one way to sort them. -/
theorem sortedChannels_eq : left.sortedChannels = right.sortedChannels := by
  have perm : left.sortedChannels.Perm right.sortedChannels :=
    (List.mergeSort_perm _ _).trans
      (((alike.entries_perm keyedLeft keyedRight).map _).trans (List.mergeSort_perm _ _).symm)
  refine List.Perm.eq_of_pairwise (fun one two memberLeft memberRight before after => ?_)
    left.pairwise_sortedChannels right.pairwise_sortedChannels perm
  have named : one.name = two.name := Text.le_antisymm before after
  have foundOne := keyedLeft.mem_values_iff.mp (List.mem_mergeSort.mp memberLeft)
  have foundTwo := keyedRight.mem_values_iff.mp (List.mem_mergeSort.mp memberRight)
  rw [alike.channels, named, foundTwo] at foundOne
  exact (Option.some.inj foundOne).symm

theorem channelsOf_eq (nick : Text) : left.channelsOf nick = right.channelsOf nick := by
  rw [channelsOf, channelsOf, alike.sortedChannels_eq keyedLeft keyedRight]

theorem countReplies_eq : left.countReplies = right.countReplies := by
  unfold countReplies countConnections
  rw [alike.connections, alike.operators, alike.size_eq keyedLeft keyedRight]

theorem welcomeReplies_eq (user : User) : left.welcomeReplies user = right.welcomeReplies user := by
  unfold welcomeReplies motdReplies
  rw [alike.countReplies_eq keyedLeft keyedRight, alike.profile]

theorem whoisReplies_eq (target : User) : left.whoisReplies target = right.whoisReplies target := by
  unfold whoisReplies channelsText
  rw [alike.channelsOf_eq keyedLeft keyedRight, alike.profile]

theorem removeUser (nick : Text) : (left.removeUser nick).Alike (right.removeUser nick) := by
  refine ⟨alike.profile, congrArg (·.erase nick) alike.users, alike.connections, alike.operators,
    fun name => ?_⟩
  rw [channels_removeUser keyedLeft, channels_removeUser keyedRight, Directory.find?_filterMap,
    Directory.find?_filterMap, alike.channels]

/-- A departure is told to the same peers. -/
theorem depart (user : User) (error : Option Text) :
    (left.depart user error).1.Alike (right.depart user error).1 ∧
      (left.depart user error).2 = (right.depart user error).2 := by
  unfold Server.depart
  split
  · have removed := alike.removeUser keyedLeft keyedRight user.nick
    refine ⟨removed.disconnect user.id, ?_⟩
    rw [alike.channelsOf_eq keyedLeft keyedRight]
    exact relay_congr removed.users _ _
  · exact ⟨alike.disconnect user.id, rfl⟩

end Listed

end Alike

end Server

/-- The reactions tell everybody the same and leave servers that are alike. -/
structure Reaction.Alike (left right : Reaction) : Prop where
  server : left.server.Alike right.server
  user : left.user = right.user
  replies : left.replies = right.replies
  verdict : left.verdict = right.verdict
  relayed : ∀ queue, linesTo queue left.relayed = linesTo queue right.relayed

namespace Handler

variable {left right : Server}

theorem answer_alike (alike : left.Alike right) (verdict : Verdict) (user : User)
    {replies others : List Reply} (same : replies = others) :
    (answer verdict replies left user).Alike (answer verdict others right user) :=
  ⟨alike, rfl, by rw [same, answer, answer, alike.reply], rfl, fun _ => rfl⟩

/-- Who looks at one channel only cannot see the order of all. -/
theorem Confined.alike {handler : Handler} {name : Text} {user : User}
    (confined : handler.Confined name user) (alike : left.Alike right)
    (keyedLeft : left.channels.Keyed Channel.name)
    (keyedRight : right.channels.Keyed Channel.name) :
    (handler left user).Alike (handler right user) := by
  have near := confined.near keyedLeft keyedRight (alike.sameAt name)
  have besideLeft := (confined.beside keyedLeft).toSameBeside
  have besideRight := (confined.beside keyedRight).toSameBeside
  exact ⟨alike.change besideLeft besideRight near.server, near.user, near.replies, near.verdict,
    fun _ => by rw [near.relayed]⟩

theorem sayToUser_alike (command : Command) (target text : Text) (user : User)
    (alike : left.Alike right) :
    (sayToUser command target text left user).Alike (sayToUser command target text right user) := by
  unfold sayToUser
  rw [alike.users]
  split
  · exact answer_alike alike .refused user rfl
  · exact ⟨alike, rfl, by rw [alike.reply], rfl, fun _ => rfl⟩

theorem oper_alike (password : Text) (user : User) (alike : left.Alike right) :
    (oper password left user).Alike (oper password right user) := by
  unfold oper
  rw [alike.profile]
  split
  · have refused := answer_alike alike .refused user (@rfl _ [Reply.passwordMismatch])
    exact ⟨alike.refresh user, rfl, refused.replies, rfl, fun _ => rfl⟩
  · refine answer_alike (Server.Alike.refresh ?_ _) .accepted _ rfl
    split
    · exact alike
    · exact ⟨rfl, alike.users, alike.connections, congrArg (· + 1) alike.operators, alike.channels⟩

theorem ping_alike (payload : Text) (user : User) (alike : left.Alike right) :
    (ping payload left user).Alike (ping payload right user) := by
  unfold ping Server.addressee
  rw [alike.profile]
  exact ⟨alike, rfl, rfl, rfl, fun _ => rfl⟩

section Listed

variable (alike : left.Alike right) (keyedLeft : left.channels.Keyed Channel.name)
  (keyedRight : right.channels.Keyed Channel.name)

include alike keyedLeft keyedRight

/-- Nor can who looks at one channel after another. -/
theorem forEach_alike {names : List Text} {step : Text → Handler} {user : User}
    (each : ∀ name, (step name).Confined name user) :
    (forEach names step left user).Alike (forEach names step right user) := by
  induction names generalizing left right with
  | nil => exact answer_alike alike .accepted user rfl
  | cons name rest inductionHypothesis =>
      have here := (each name).alike alike keyedLeft keyedRight
      have after := inductionHypothesis here.server ((each name).beside keyedLeft).keyed
        ((each name).beside keyedRight).keyed
      rw [forEach_cons ((each name).unchanged left), forEach_cons ((each name).unchanged right)]
      refine ⟨after.server, after.user, congrArg₂ _ here.replies after.replies, after.verdict,
        fun queue => ?_⟩
      dsimp only
      rw [linesTo_append, linesTo_append, here.relayed, after.relayed]

theorem talk_alike (command : Command) (target text : Text) (user : User) :
    (talk command target text left user).Alike (talk command target text right user) := by
  by_cases marked : target.head? = some '#'
  · exact (talk_confined command marked text user).alike alike keyedLeft keyedRight
  · unfold talk
    split
    · exact answer_alike alike .refused user rfl
    · exact sayToUser_alike command target text user alike

theorem list_alike (targets : Text) (user : User) :
    (list targets left user).Alike (list targets right user) := by
  refine answer_alike alike .accepted user ?_
  have found : left.channels.find? = right.channels.find? := funext alike.channels
  rw [alike.sortedChannels_eq keyedLeft keyedRight, found]

theorem names_alike (targets : Text) (user : User) :
    (names targets left user).Alike (names targets right user) := by
  unfold names
  split
  · refine answer_alike alike .accepted user ?_
    rw [alike.sortedChannels_eq keyedLeft keyedRight, funext alike.namesReplies]
  · exact forEach_alike alike keyedLeft keyedRight fun name => namesOne_confined name user

theorem whois_alike (nick : Text) (user : User) :
    (whois nick left user).Alike (whois nick right user) := by
  unfold whois
  rw [alike.users]
  split
  · exact answer_alike alike .accepted user (alike.whoisReplies_eq keyedLeft keyedRight _)
  · exact answer_alike alike .refused user rfl

theorem register_alike (user : User) : (register left user).Alike (register right user) := by
  unfold register
  split
  · rename_i nick _ _ _
    rw [alike.users]
    split
    · exact answer_alike alike .refused user.clearNick rfl
    · have enrolled := alike.enroll nick { user with registered := true }
      exact answer_alike enrolled .accepted _ (enrolled.welcomeReplies_eq keyedLeft keyedRight _)
  · exact answer_alike alike .accepted user rfl

theorem user_alike (username realname : Text) (user : User) :
    (Handler.user username realname left user).Alike
      (Handler.user username realname right user) :=
  register_alike (alike.advance user.id .identified) keyedLeft keyedRight _

theorem nick_alike (name : Text) (user : User)
    (told : user.registered = true → left.heldByOther user name = false →
      Nickname.isValid left.profile.nickLimit name = true → ∀ queue line,
        linesTo queue ((left.rename user name).relay (peersIn (left.renamedChannels user name) name)
            line) =
          linesTo queue ((right.rename user name).relay
            (peersIn (right.renamedChannels user name) name) line)) :
    (nick name left user).Alike (nick name right user) := by
  unfold nick
  rw [alike.profile]
  split
  · exact answer_alike alike .refused user rfl
  split
  · exact answer_alike alike .refused user rfl
  rename_i valid
  rw [← alike.profile] at valid
  split
  · rename_i registered
    unfold nextNick
    split
    · exact answer_alike alike .accepted user rfl
    have held : right.heldByOther user name = left.heldByOther user name := by
      rw [Server.heldByOther, ← alike.users]
      rfl
    rw [held]
    split
    · exact answer_alike alike .refused user rfl
    · rename_i free
      exact ⟨alike.rename user name, rfl, rfl, rfl, fun queue =>
        told registered (eq_false_of_ne_true free) (by simpa using valid) queue _⟩
  · unfold firstNick
    rw [alike.users]
    split
    · exact answer_alike alike .refused user rfl
    · exact register_alike (alike.advance user.id .identified) keyedLeft keyedRight _

end Listed

end Handler

namespace Network

/-- Two networks with the same clients, whose servers list the same channels. -/
structure Twin (profile : Profile) (left right : Network) : Prop where
  clients : left.clients = right.clients
  server : left.server.Alike right.server
  orderly : left.Orderly
  consistent : Consistent profile left.server left.roster
  mirrored : Consistent profile right.server right.roster

namespace Twin

variable {profile : Profile} {left right : Network} {number : Nat} {client : Client}
  {message : Message} (twin : Twin profile left right)

include twin

theorem client?_eq (number : Nat) : left.client? number = right.client? number := by
  rw [client?, client?, twin.clients]

theorem roster_eq : left.roster = right.roster := by
  funext number
  rw [roster, roster, twin.client?_eq]

theorem shares_eq (number other : Nat) : left.shares number other = right.shares number other := by
  have inside (channel : Channel) (number : Nat) :
      left.isIn number channel = right.isIn number channel := by
    rw [isIn, isIn, twin.roster_eq]
  rw [Bool.eq_iff_iff, shares_iff, shares_iff]
  simp only [inside, twin.server.mem_values_iff twin.consistent.keyed twin.mirrored.keyed]

theorem run_alike (found : left.client? number = some client) (live : client.live = true)
    (command : Command) :
    (Handler.run command message left.server client.user).Alike
      (Handler.run command message right.server client.user) := by
  have alike := twin.server
  have keyedLeft := twin.consistent.keyed
  have keyedRight := twin.mirrored.keyed
  have here := roster_of_client found live
  cases command with
  | away => exact Handler.answer_alike (alike.refresh _) .accepted _ rfl
  | join =>
      exact Handler.forEach_alike alike keyedLeft keyedRight fun name =>
        Handler.joinOne_confined name client.user
  | list => exact Handler.list_alike alike keyedLeft keyedRight _ _
  | lusers =>
      exact Handler.answer_alike alike .accepted _ (alike.countReplies_eq keyedLeft keyedRight)
  | mode => exact (Handler.mode_confined _ _ _ _).alike alike keyedLeft keyedRight
  | motd =>
      refine Handler.answer_alike alike .accepted _ ?_
      rw [Server.motdReplies, alike.profile]
      rfl
  | names => exact Handler.names_alike alike keyedLeft keyedRight _ _
  | nick =>
      refine Handler.nick_alike alike keyedLeft keyedRight _ _ fun registered free valid queue line => ?_
      have same : left.server.profile = profile := twin.consistent.registry.profileEq
      have taken : right.server.heldByOther client.user (message.param 0) = false := by
        rw [Server.heldByOther, ← alike.users]
        exact free
      rw [linesTo_rename twin.consistent here registered (same ▸ valid) free,
        linesTo_rename twin.mirrored (twin.roster_eq ▸ here) registered (same ▸ valid) taken,
        twin.shares_eq]
  | notice | privmsg => exact Handler.talk_alike alike keyedLeft keyedRight _ _ _ _
  | oper => exact Handler.oper_alike _ _ alike
  | part =>
      exact Handler.forEach_alike alike keyedLeft keyedRight fun name =>
        Handler.partOne_confined _ name client.user
  | ping => exact Handler.ping_alike _ _ alike
  | pong => exact Handler.answer_alike alike .accepted _ rfl
  | quit => exact ⟨alike, rfl, rfl, rfl, fun _ => rfl⟩
  | topic => exact (Handler.topic_confined _ _ _).alike alike keyedLeft keyedRight
  | user => exact Handler.user_alike alike keyedLeft keyedRight _ _ _
  | whois => exact Handler.whois_alike alike keyedLeft keyedRight _ _

theorem handle_alike (found : left.client? number = some client) (live : client.live = true) :
    (Handler.handle message left.server client.user).Alike
      (Handler.handle message right.server client.user) := by
  have rejected {replies : List Reply} :=
    Handler.answer_alike twin.server .rejected client.user (@rfl _ replies)
  cases asked : message.verb with
  | other word =>
      simp only [Handler.handle, asked]
      exact rejected
  | reply code =>
      simp only [Handler.handle, asked]
      split
      · exact Handler.answer_alike twin.server .accepted client.user rfl
      · exact rejected
  | command command =>
      simp only [Handler.handle, asked]
      split
      · exact rejected
      split
      · exact rejected
      split
      · exact rejected
      · exact twin.run_alike found live command

end Twin

end Network

end IrcServer
