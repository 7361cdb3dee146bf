import IrcServer.Proofs.Chronicle
import IrcServer.Proofs.Commute
import IrcServer.Proofs.Flags
import IrcServer.Proofs.Isolation
import IrcServer.Proofs.Refusal

namespace IrcServer

/-! Every channel is what the moves of its clients have made of it, message by message.

A chapter `Describes` a channel if it has the same name and topic, and knows the channel's members
by number.  It does so after every move of a client, whether the move changes anything or not
(`Follows`), and whatever nicknames the clients take. -/

/-- What a message asks for in channels, in order.  A JOIN of a name that no channel can have asks
for nothing. -/
def Message.moves (limit number : Nat) (message : Message) : List Move :=
  match message.verb with
  | .command .join =>
      ((message.param 0).pieces.filter (ChannelName.isValid limit)).map (.joins number)
  | .command .part => (message.param 0).pieces.map (.parts number)
  | .command .topic => message.params[1]?.toList.map (.titles number (message.param 0))
  | _ => []

section Moves

variable {message : Message} {limit number : Nat}

theorem Message.moves_of_other
    (other : ∀ command ∈ [Command.join, .part, .topic], message.verb ≠ .command command) :
    message.moves limit number = [] := by
  unfold moves
  split
  · exact absurd ‹_› (other _ (by simp))
  · exact absurd ‹_› (other _ (by simp))
  · exact absurd ‹_› (other _ (by simp))
  · rfl

theorem Message.moves_of_blank (blank : message.params = []) : message.moves limit number = [] := by
  unfold moves
  split <;> simp [param, blank, Text.pieces]

theorem Message.moves_join (asked : message.verb = .command .join) :
    message.moves limit number = (message.param 0).pieces.flatMap fun name =>
      ([name].filter (ChannelName.isValid limit)).map (.joins number) := by
  rw [moves, asked]
  dsimp only
  induction (message.param 0).pieces with
  | nil => rfl
  | cons name rest inductionHypothesis =>
      rw [List.flatMap_cons, ← inductionHypothesis, ← List.map_append, ← List.filter_append]
      rfl

theorem Message.moves_part (asked : message.verb = .command .part) :
    message.moves limit number =
      (message.param 0).pieces.flatMap fun name => [.parts number name] := by
  rw [moves, asked]
  exact List.map_eq_flatMap

theorem Message.moves_topic (asked : message.verb = .command .topic) :
    message.moves limit number =
      message.params[1]?.toList.map (.titles number (message.param 0)) := by
  rw [moves, asked]

end Moves

/-- The registered client of that number is the member. -/
def Roster.Holds (roster : Roster) (number : Nat) (member : Member) : Prop :=
  ∃ user, roster number = some user ∧ user.registered = true ∧ user.nick = member.nick

/-- The flags of the members have been given by deeds of the `history`. -/
structure Chapter.Describes (key : Text) (history : List Deed) (roster : Roster)
    (chapter : Chapter) (channel : Channel) : Prop where
  name : channel.name = chapter.name
  topic : channel.topic = chapter.topic
  members : List.Forall₂ roster.Holds chapter.entrants channel.members
  borne : ∀ number ∈ chapter.entrants, ∃ deed ∈ history, (deed.flagFor number key).isSome = true

/-- The channel is as the moves tell it, or is missing as they tell. -/
def Follows (key : Text) (moves : List Move) (history : List Deed) (server : Server)
    (roster : Roster) : Prop :=
  Option.Rel (Chapter.Describes key history roster) (Chapter.of key moves)
    (server.channels.find? key)

section Holds

variable {profile : Profile} {server : Server} {roster : Roster} {user : User} {number : Nat}
  {member : Member}

theorem Roster.Holds.eq_iff (holds : roster.Holds number member)
    (registry : Registry profile server roster) (here : roster user.queue = some user)
    (registered : user.registered = true) :
    number = user.queue ↔ member.key = user.nick.fold := by
  obtain ⟨holder, there, known, named⟩ := holds
  constructor
  · rintro rfl
    cases here.symm.trans there
    rw [Member.key, named]
  · intro same
    rw [Member.key, ← named] at same
    obtain rfl := registry.eq_of_fold_eq there here known registered same
    exact (registry.numbered there).symm

/-- A change of one record that keeps its nickname. -/
theorem Roster.Holds.update (holds : roster.Holds number member)
    (here : roster user.queue = some user) {present : User}
    (same : user.registered = true → present.registered = true ∧ present.nick = user.nick) :
    Roster.Holds (Function.update roster user.queue (some present)) number member := by
  obtain ⟨holder, there, registered, named⟩ := holds
  by_cases own : number = user.queue
  · subst own
    cases here.symm.trans there
    obtain ⟨still, nick⟩ := same registered
    exact ⟨present, Function.update_self _ _ _, still, nick.trans named⟩
  · exact ⟨holder, by rw [Function.update_of_ne own, there], registered, named⟩

end Holds

namespace Chapter.Describes

variable {profile : Profile} {key : Text} {history : List Deed} {server : Server} {roster : Roster}
  {user : User} {chapter : Chapter} {channel : Channel}

theorem mono (describes : chapter.Describes key history roster channel) {longer : List Deed}
    {later : Roster} (more : history ⊆ longer)
    (holds : ∀ number member, roster.Holds number member → later.Holds number member) :
    chapter.Describes key longer later channel where
  name := describes.name
  topic := describes.topic
  members := describes.members.imp holds
  borne number present := by
    obtain ⟨deed, done, bears⟩ := describes.borne number present
    exact ⟨deed, more done, bears⟩

/-- A client is in the chapter as it is in the channel. -/
theorem mem_iff (describes : chapter.Describes key history roster channel)
    (registry : Registry profile server roster) (here : roster user.queue = some user)
    (registered : user.registered = true) :
    user.queue ∈ chapter.entrants ↔ channel.isMember user.nick = true := by
  have members := describes.members
  rw [Channel.isMember]
  generalize chapter.entrants = entrants, channel.members = members at members
  induction members with
  | nil => simp
  | cons holds _ inductionHypothesis =>
      rw [List.mem_cons, List.any_cons, Bool.or_eq_true, isNamed_iff]
      exact or_congr (eq_comm.trans (holds.eq_iff registry here registered)) inductionHypothesis

/-- Whoever is in the chapter is a registered client. -/
theorem known (describes : chapter.Describes key history roster channel) {number : Nat}
    (present : number ∈ chapter.entrants) :
    ∃ holder, roster number = some holder ∧ holder.registered = true := by
  have members := describes.members
  generalize chapter.entrants = entrants, channel.members = members at members present
  induction members with
  | nil => cases present
  | cons holds _ inductionHypothesis =>
      rcases List.mem_cons.mp present with rfl | other
      · obtain ⟨holder, there, registered, _⟩ := holds
        exact ⟨holder, there, registered⟩
      · exact inductionHypothesis other

/-- The chapter and the channel go on alike when a client leaves. -/
theorem without (describes : chapter.Describes key history roster channel)
    (registry : Registry profile server roster) (here : roster user.queue = some user)
    (registered : user.registered = true) (distinct : DistinctMembers channel.members)
    (inhabited : channel.members ≠ []) {later : Roster}
    (holds : ∀ number member, number ≠ user.queue ∧ roster.Holds number member →
      later.Holds number member) :
    Option.Rel (Chapter.Describes key history later) (chapter.without user.queue)
      (channel.without user.nick) := by
  have stay : List.Forall₂ roster.Holds (chapter.entrants.filter (· ≠ user.queue))
      (channel.dropped user.nick).members := by
    refine List.rel_filter (fun number member holds => ?_) describes.members
    dsimp only
    rw [decide_eq_true_eq, decide_eq_true_eq]
    exact not_congr (holds.eq_iff registry here registered)
  have others : ∀ number ∈ chapter.entrants.filter (· ≠ user.queue), number ≠ user.queue :=
    fun number kept => of_decide_eq_true (List.mem_filter.mp kept).2
  rw [Channel.without_eq distinct inhabited, Chapter.without]
  split
  · rename_i emptied
    rw [emptied, List.forall₂_nil_left_iff] at stay
    rw [if_pos stay]
    exact .none
  · rename_i peopled
    rw [if_neg fun emptied => peopled (List.forall₂_nil_right_iff.mp (emptied ▸ stay))]
    refine .some ⟨describes.name, describes.topic, ?_, fun number kept => ?_⟩
    · exact ((List.forall₂_and_left _ _).mpr ⟨others, stay⟩).imp holds
    · exact describes.borne number (List.mem_filter.mp kept).1

/-- Who is in no channel takes nothing along. -/
theorem without_absent (describes : chapter.Describes key history roster channel)
    (inhabited : channel.members ≠ []) {number : Nat} (absent : number ∉ chapter.entrants) :
    chapter.without number = some chapter := by
  have kept : chapter.entrants.filter (· ≠ number) = chapter.entrants :=
    List.filter_eq_self.mpr fun other present =>
      decide_eq_true fun same => absent (same ▸ present)
  have peopled : chapter.entrants ≠ [] := by
    intro emptied
    have members := describes.members
    rw [emptied, List.forall₂_nil_left_iff] at members
    exact inhabited members
  rw [Chapter.without, kept, if_neg peopled]

end Chapter.Describes

/-- A JOIN of a channel that can be entered. -/
theorem Handler.joinOne_eq {name : Text} {server : Server} {user : User} {channel : Channel}
    (valid : ChannelName.isValid server.profile.channelLimit name = true)
    (listed : (server.channels.find? name).getD (.new name) = channel)
    (opened : channel.closed = false) :
    Handler.joinOne name server user =
      if channel.isMember user.nick then Handler.say [] server user
      else Handler.entered name
        { channel with
          members := channel.members ++ [⟨user.nick, (server.channels.find? name).isNone⟩] }
        server user := by
  rw [joinOne, valid, if_neg (by simp)]
  dsimp only
  rw [listed, Channel.join, if_neg (by simp [opened])]
  by_cases present : channel.isMember user.nick = true
  · simp only [if_pos present]
  · simp only [if_neg present]
    rfl

namespace Follows

variable {profile : Profile} {key : Text} {moves : List Move} {history : List Deed}
  {start server later : Server} {roster : Roster} {user : User}

theorem cases (follows : Follows key moves history server roster) :
    (Chapter.of key moves = none ∧ server.channels.find? key = none) ∨
      ∃ chapter channel, Chapter.of key moves = some chapter ∧
        server.channels.find? key = some channel ∧
          chapter.Describes key history roster channel := by
  unfold Follows at follows
  generalize Chapter.of key moves = told, server.channels.find? key = listed at follows
  cases follows with
  | none => exact .inl ⟨rfl, rfl⟩
  | some describes => exact .inr ⟨_, _, rfl, rfl, describes⟩

theorem mono (follows : Follows key moves history server roster) {longer : List Deed}
    {remaining : Roster} (channels : later.channels.find? key = server.channels.find? key)
    (more : history ⊆ longer)
    (holds : ∀ number member, roster.Holds number member → remaining.Holds number member) :
    Follows key moves longer later remaining := by
  unfold Follows
  rcases follows.cases with ⟨told, missing⟩ | ⟨chapter, channel, told, found, describes⟩
  · rw [told, channels, missing]
    exact .none
  · rw [told, channels, found]
    exact .some (describes.mono more holds)

/-- A move about another channel. -/
theorem elsewhere (follows : Follows key moves history server roster) {move : Move}
    {longer : List Deed} (channels : later.channels.find? key = server.channels.find? key)
    (more : history ⊆ longer) (idle : ∀ present, Chapter.next key present move = present) :
    Follows key (moves ++ [move]) longer later roster := by
  have same := follows.mono channels more fun _ _ => id
  unfold Follows at same ⊢
  rw [Chapter.of_append, idle]
  exact same

/-- A JOIN of a client that is in the channel. -/
theorem again (follows : Follows key moves history server roster) {chapter : Chapter}
    (told : Chapter.of key moves = some chapter) {number : Nat}
    (present : number ∈ chapter.entrants) {name : Text} (same : name.fold = key.fold) :
    Follows key (moves ++ [.joins number name]) history server roster := by
  unfold Follows at follows ⊢
  rw [Chapter.of_append, Chapter.next, if_pos same, told, Option.getD_some, Chapter.enter,
    if_pos present, ← told]
  exact follows

/-- A client enters a channel that the moves tell of as one that is there, or as one to be opened
by the JOIN. -/
theorem entered (here : roster user.queue = some user) (registered : user.registered = true)
    {name : Text} (same : name.fold = key.fold) {chapter : Chapter} {channel : Channel}
    (known : (Chapter.of key moves).getD { name, entrants := [], topic := none } = chapter)
    (describes : chapter.Describes key history roster channel)
    (named : channel.name.fold = key.fold) (absent : user.queue ∉ chapter.entrants)
    (operator : Bool) :
    let joined : Channel := { channel with members := channel.members ++ [⟨user.nick, operator⟩] }
    Follows key (moves ++ [.joins user.queue name])
      (history ++ Deed.ofLines start user.queue (Handler.entered name joined server user).replies)
      (Handler.entered name joined server user).server roster := by
  intro joined
  have found : (Handler.entered name joined server user).server.channels.find? key = some joined :=
    (Server.find?_setChannel _ _ _ _).trans (if_pos same.symm)
  unfold Follows
  rw [Chapter.of_append, Chapter.next, if_pos same, known, found, Chapter.enter, if_neg absent]
  refine .some ⟨describes.name, describes.topic, ?_, fun number present => ?_⟩
  · exact List.rel_append describes.members (.cons ⟨user, here, registered, rfl⟩ .nil)
  · rcases List.mem_append.mp present with old | new
    · obtain ⟨deed, done, bears⟩ := describes.borne number old
      exact ⟨deed, List.mem_append_left _ done, bears⟩
    · rw [List.mem_singleton.mp new]
      refine ⟨.joined user.queue channel.name (!start.channels.contains channel.name),
        List.mem_append_right _ ?_, ?_⟩
      · exact List.mem_filterMap.mpr ⟨_, List.mem_cons_self, Deed.ofLine_join channel.name⟩
      · rw [Deed.flagFor, if_pos ⟨rfl, named⟩]
        rfl

/-- JOIN of one channel. -/
theorem joinOne (follows : Follows key moves history server roster)
    (consistent : Consistent profile server roster) (here : roster user.queue = some user)
    (registered : user.registered = true) (start : Server) (name : Text) :
    Follows key
      (moves ++ ([name].filter (ChannelName.isValid profile.channelLimit)).map
        (.joins user.queue))
      (history ++ Deed.ofLines start user.queue (Handler.joinOne name server user).replies)
      (Handler.joinOne name server user).server roster := by
  have more : ∀ deeds, history ⊆ history ++ deeds := fun _ => List.subset_append_left _ _
  cases valid : ChannelName.isValid profile.channelLimit name with
  | false =>
      have refused : Handler.joinOne name server user =
          Handler.say [.noSuchChannel name] server user := by
        rw [Handler.joinOne, consistent.registry.profileEq, valid]
        exact if_pos rfl
      rw [List.filter_singleton, valid, cond_false, List.map_nil, List.append_nil, refused]
      exact follows.mono rfl (more _) fun _ _ => id
  | true =>
      rw [List.filter_singleton, valid, cond_true, List.map_singleton]
      obtain ⟨_, opened, named, _, _⟩ := consistent.joinable valid rfl
      rw [Handler.joinOne_eq (consistent.registry.profileEq ▸ valid) rfl opened]
      by_cases same : name.fold = key.fold
      · have listed : server.channels.find? name = server.channels.find? key :=
          Directory.find?_congr same
        rcases follows.cases with ⟨told, missing⟩ | ⟨chapter, channel, told, found, describes⟩
        · have blank : Chapter.Describes key history roster
              { name, entrants := [], topic := none } (.new name) :=
            ⟨rfl, rfl, .nil, fun _ present => by cases present⟩
          rw [listed, missing, Option.getD_none]
          exact entered here registered same (by rw [told]; rfl) blank same (by simp) _
        · have joined := describes.mem_iff consistent.registry here registered
          rw [listed, found, Option.getD_some] at named ⊢
          split
          · rename_i present
            exact (follows.again told (joined.mpr present) same).mono rfl (more _) fun _ _ => id
          · rename_i absent
            exact entered here registered same (by rw [told]; rfl) describes (named.trans same)
              (mt joined.mp absent) _
      · refine follows.elsewhere ?_ (more _) fun present => by rw [Chapter.next, if_neg same]
        split
        · rfl
        · exact (Server.find?_setChannel _ _ _ _).trans (if_neg (Ne.symm same))

theorem find?_partOne {server : Server} (keyed : server.channels.Keyed Channel.name)
    (reason name : Text) (user : User) (key : Text) :
    (Handler.partOne reason name server user).server.channels.find? key =
      if key.fold = name.fold then
        (server.channels.find? key).bind fun channel => channel.without user.nick
      else server.channels.find? key := by
  unfold Handler.partOne
  split
  · rename_i missing
    split
    · rename_i same
      have here := (Directory.find?_congr same).trans missing
      rw [here]
      exact here
    · rfl
  · rename_i channel found
    split
    · rename_i absent
      have stays : channel.without user.nick = some channel :=
        Channel.without_of_absent (by simpa using absent)
      split
      · rename_i same
        have here := (Directory.find?_congr same).trans found
        rw [here, Option.bind_some, stays]
        exact here
      · rfl
    · exact Server.find?_leaveChannel keyed _ _ _

/-- PART of one channel. -/
theorem partOne (follows : Follows key moves history server roster)
    (consistent : Consistent profile server roster) (here : roster user.queue = some user)
    (registered : user.registered = true) (reason name : Text) :
    Follows key (moves ++ [.parts user.queue name]) history
      (Handler.partOne reason name server user).server roster := by
  by_cases same : name.fold = key.fold
  · unfold Follows
    rw [Chapter.of_append, Chapter.next, if_pos same, find?_partOne consistent.keyed,
      if_pos same.symm]
    rcases follows.cases with ⟨told, missing⟩ | ⟨chapter, channel, told, found, describes⟩
    · rw [told, missing]
      exact .none
    · have sound := consistent.sound found
      rw [told, found, Option.bind_some, Option.bind_some]
      exact describes.without consistent.registry here registered sound.distinct sound.inhabited
        fun _ _ both => both.2
  · refine follows.elsewhere ?_ (List.Subset.refl _) fun _ => by rw [Chapter.next, if_neg same]
    rw [find?_partOne consistent.keyed, if_neg (Ne.symm same)]

/-- TOPIC with a text. -/
theorem topic (follows : Follows key moves history server roster)
    (consistent : Consistent profile server roster) (here : roster user.queue = some user)
    (registered : user.registered = true) (name title : Text) :
    Follows key (moves ++ [.titles user.queue name title]) history
      (Handler.topic name (some title) server user).server roster := by
  by_cases same : name.fold = key.fold
  · have listed : server.channels.find? name = server.channels.find? key :=
      Directory.find?_congr same
    unfold Follows Handler.topic Handler.setTopic
    rw [Chapter.of_append, Chapter.next, if_pos same, listed]
    rcases follows.cases with ⟨told, missing⟩ | ⟨chapter, channel, told, found, describes⟩
    · rw [told, missing]
      dsimp only [Handler.refuse, Handler.answer]
      rw [missing]
      exact .none
    · have joined := describes.mem_iff consistent.registry here registered
      rw [told, found, Option.map_some, Chapter.retitle]
      dsimp only
      by_cases present : channel.isMember user.nick = true
      · rw [if_pos (joined.mpr present), present, Bool.not_true, if_neg Bool.false_ne_true]
        rw [Server.find?_setChannel, if_pos same.symm]
        exact .some ⟨describes.name, rfl, describes.members, describes.borne⟩
      · rw [if_neg (mt joined.mp present), eq_false_of_ne_true present, Bool.not_false, if_pos rfl]
        dsimp only [Handler.refuse, Handler.answer]
        rw [found]
        exact .some describes
  · refine follows.elsewhere ?_ (List.Subset.refl _) fun _ => by rw [Chapter.next, if_neg same]
    unfold Handler.topic Handler.setTopic
    split
    · rfl
    · dsimp only
      split
      · rfl
      · exact (Server.find?_setChannel _ _ _ _).trans (if_neg (Ne.symm same))

/-- A client is gone, from every channel. -/
theorem depart (follows : Follows key moves history server roster)
    (consistent : Consistent profile server roster) (here : roster user.queue = some user.settled)
    (error : Option Text) :
    Follows key (moves ++ [.leaves user.queue]) history (server.depart user error).1
      (Function.update roster user.queue none) := by
  have holds : ∀ number member, number ≠ user.queue ∧ roster.Holds number member →
      Roster.Holds (Function.update roster user.queue none) number member := by
    rintro number member ⟨differs, holder, there, known, named⟩
    exact ⟨holder, by rw [Function.update_of_ne differs, there], known, named⟩
  unfold Follows
  rw [Chapter.of_append, Chapter.next, Server.channels_depart consistent.keyed]
  rcases follows.cases with ⟨told, missing⟩ | ⟨chapter, channel, told, found, describes⟩
  · rw [told]
    split
    · rw [Directory.find?_filterMap, missing]
      exact .none
    · rw [missing]
      exact .none
  · have sound := consistent.sound found
    rw [told, Option.bind_some]
    split
    · rename_i registered
      rw [Directory.find?_filterMap, found, Option.bind_some]
      exact @Chapter.Describes.without profile key history server roster user.settled chapter
        channel describes consistent.registry here registered sound.distinct sound.inhabited _
        holds
    · rename_i unregistered
      have absent : user.queue ∉ chapter.entrants := by
        intro present
        obtain ⟨holder, there, known⟩ := describes.known present
        cases here.symm.trans there
        exact unregistered known
      rw [found, describes.without_absent sound.inhabited absent]
      refine .some (describes.mono (List.Subset.refl _) fun number member held => ?_)
      refine holds number member ⟨?_, held⟩
      rintro rfl
      obtain ⟨holder, there, known, _⟩ := held
      cases here.symm.trans there
      exact unregistered known

theorem change (follows : Follows key moves history server roster)
    (consistent : Consistent profile server roster) {name : Text} {channel : Channel}
    (found : server.channels.find? name = some channel) (nick : Text) (enabled : Bool) :
    Follows key moves history (server.setChannel name (channel.setOperator nick enabled).2)
      roster := by
  by_cases same : name.fold = key.fold
  · have listed := (Directory.find?_congr same).symm.trans found
    unfold Follows
    rw [Server.find?_setChannel, if_pos same.symm]
    rcases follows.cases with ⟨_, missing⟩ | ⟨chapter, _, told, present, describes⟩
    · cases listed.symm.trans missing
    · cases listed.symm.trans present
      rw [told, Channel.setOperator_snd (consistent.sound found).distinct]
      refine .some ⟨describes.name, describes.topic, ?_, describes.borne⟩
      refine List.forall₂_map_right_iff.mpr (describes.members.imp fun number member holds => ?_)
      split <;> exact holds
  · exact follows.mono ((Server.find?_setChannel _ _ _ _).trans (if_neg (Ne.symm same)))
      (List.Subset.refl _) fun _ _ => id

theorem rename (follows : Follows key moves history server roster)
    (consistent : Consistent profile server roster) (here : roster user.queue = some user)
    (registered : user.registered = true) (nick : Text) :
    Follows key moves history (server.rename user nick)
      (Function.update roster user.queue (some (user.setNick nick))) := by
  unfold Follows Server.rename
  rw [Directory.find?_map]
  rcases follows.cases with ⟨told, missing⟩ | ⟨chapter, channel, told, found, describes⟩
  · rw [told, missing]
    exact .none
  · rw [told, found, Option.map_some, Channel.rename_snd (consistent.sound found).distinct]
    refine .some ⟨describes.name, describes.topic, ?_, describes.borne⟩
    refine List.forall₂_map_right_iff.mpr (describes.members.imp fun number member holds => ?_)
    have own := holds.eq_iff consistent.registry here registered
    split
    · rename_i renamed
      rw [own.mpr renamed]
      exact ⟨_, Function.update_self _ _ _, registered, rfl⟩
    · rename_i kept
      obtain ⟨holder, there, known, named⟩ := holds
      exact ⟨holder, by rw [Function.update_of_ne (mt own.mp kept), there], known, named⟩

/-- Whatever else a client does moves nobody. -/
theorem act (follows : Follows key moves history server roster)
    (consistent : Consistent profile server roster) (here : roster user.queue = some user)
    {message : Message} {reaction : Reaction} (act : Act message server user reaction)
    (other : ∀ command ∈ [Command.join, .part, .topic], message.verb ≠ .command command) :
    Follows key moves history reaction.server
      (Function.update roster user.queue (some reaction.user)) := by
  have unchanged : Function.update roster user.queue (some user) = roster := by
    rw [← here, Function.update_eq_self]
  have frame : ∀ {later : Server} {present : User}, later.channels = server.channels →
      (user.registered = true → present.registered = true ∧ present.nick = user.nick) →
      Follows key moves history later (Function.update roster user.queue (some present)) :=
    fun channels same => follows.mono (by rw [channels]) (List.Subset.refl _) fun _ _ holds =>
      holds.update here same
  cases act with
  | joined asked | parted asked | titled asked => exact absurd asked (other _ (by simp))
  | still => exact frame rfl fun registered => ⟨registered, rfl⟩
  | marked | empowered =>
      exact frame (Server.refresh_channels _ _) fun registered => ⟨registered, rfl⟩
  | named _ unregistered | introduced _ _ unregistered | enrolled unregistered =>
      exact frame rfl fun registered => by cases unregistered.symm.trans registered
  | changed _ _ found =>
      rw [unchanged]
      exact follows.change consistent found _ _
  | renamed _ registered => exact follows.rename consistent here registered _

theorem acts {message : Message} {reaction : Reaction} (acts : Acts message server user reaction)
    (follows : Follows key moves history server roster)
    (consistent : Consistent profile server roster) (here : roster user.queue = some user)
    (staying : user.quitReason = none)
    (other : ∀ command ∈ [Command.join, .part, .topic], message.verb ≠ .command command) :
    Follows key moves history reaction.server
      (Function.update roster user.queue (some reaction.user.settled)) := by
  induction acts generalizing roster with
  | @quit server user reason asked =>
      have unchanged : (Handler.quit reason server user).user.settled = user :=
        User.settled_eq staying
      rw [unchanged, ← here, Function.update_eq_self]
      exact follows
  | last act =>
      rw [User.settled_eq (act.samePerson.2.2.2.trans staying)]
      exact follows.act consistent here act other
  | @next server user first rest act _ inductionHypothesis =>
      obtain ⟨queue, _, _, quitReason⟩ := act.samePerson
      have later := inductionHypothesis (follows.act consistent here act other)
        (consistent.act here act) (by rw [queue, Function.update_self])
        (quitReason.trans staying)
      rwa [queue, Function.update_idem] at later

/-- A list of channels is gone through one by one. -/
theorem forEach {tell : Text → List Move} {step : Text → Handler} {names : List Text}
    (each : ∀ name ∈ names, ∀ {server moves history}, Consistent profile server roster →
      Follows key moves history server roster →
        (step name server user).user = user ∧
          Consistent profile (step name server user).server roster ∧
            Follows key (moves ++ tell name)
              (history ++ Deed.ofLines start user.queue (step name server user).replies)
              (step name server user).server roster)
    (follows : Follows key moves history server roster)
    (consistent : Consistent profile server roster) :
    Follows key (moves ++ names.flatMap tell)
      (history ++ Deed.ofLines start user.queue (Handler.forEach names step server user).replies)
      (Handler.forEach names step server user).server roster := by
  induction names generalizing server moves history with
  | nil =>
      rw [List.flatMap_nil, List.append_nil]
      exact follows.mono rfl (List.subset_append_left _ _) fun _ _ => id
  | cons name rest inductionHypothesis =>
      obtain ⟨first, others⟩ := List.forall_mem_cons.mp each
      obtain ⟨same, between, moved⟩ := first consistent follows
      have later := inductionHypothesis others moved between
      rw [Handler.forEach_cons same, Deed.ofLines_append, List.flatMap_cons, ← List.append_assoc,
        ← List.append_assoc]
      exact later

theorem join (follows : Follows key moves history server roster)
    (consistent : Consistent profile server roster) (here : roster user.queue = some user)
    (registered : user.registered = true) {message : Message}
    (asked : message.verb = .command .join) :
    Follows key (moves ++ message.moves profile.channelLimit user.queue)
      (history ++ Deed.ofLines start user.queue
        (Handler.join (message.param 0) server user).replies)
      (Handler.join (message.param 0) server user).server roster := by
  rw [Message.moves_join asked]
  refine follows.forEach (fun name named {server moves history} consistent follows => ?_) consistent
  obtain ⟨act, same⟩ := @Handler.joinOne_act message server user asked name named registered
  have after := consistent.act here act
  rw [same, ← here, Function.update_eq_self] at after
  exact ⟨same, after, follows.joinOne consistent here registered start name⟩

theorem part (follows : Follows key moves history server roster)
    (consistent : Consistent profile server roster) (here : roster user.queue = some user)
    (registered : user.registered = true) {message : Message}
    (asked : message.verb = .command .part) :
    Follows key (moves ++ message.moves profile.channelLimit user.queue)
      (history ++ Deed.ofLines start user.queue
        (Handler.part (message.param 0) (message.param 1) server user).replies)
      (Handler.part (message.param 0) (message.param 1) server user).server roster := by
  rw [Message.moves_part asked]
  refine follows.forEach (fun name named {server moves history} consistent follows => ?_) consistent
  obtain ⟨act, same⟩ :=
    @Handler.partOne_act message server user asked registered (message.param 1) name
  have after := consistent.act here act
  rw [same, ← here, Function.update_eq_self] at after
  exact ⟨same, after, (follows.partOne consistent here registered _ name).mono rfl
    (List.subset_append_left _ _) fun _ _ => id⟩

theorem topicOf (follows : Follows key moves history server roster)
    (consistent : Consistent profile server roster) (here : roster user.queue = some user)
    (registered : user.registered = true) {message : Message}
    (asked : message.verb = .command .topic) :
    Follows key (moves ++ message.moves profile.channelLimit user.queue)
      (history ++ Deed.ofLines start user.queue
        (Handler.topic (message.param 0) message.params[1]? server user).replies)
      (Handler.topic (message.param 0) message.params[1]? server user).server roster := by
  rw [Message.moves_topic asked]
  cases message.params[1]? with
  | none =>
      have shown : (Handler.topic (message.param 0) none server user).server = server := by
        unfold Handler.topic
        split
        · rfl
        · dsimp only
          split <;> rfl
      rw [Option.toList_none, List.map_nil, List.append_nil]
      exact follows.mono (by rw [shown]) (List.subset_append_left _ _) fun _ _ => id
  | some title =>
      exact (follows.topic consistent here registered _ title).mono rfl
        (List.subset_append_left _ _) fun _ _ => id

/-- What a message does in channels is what its moves tell. -/
theorem handle (follows : Follows key moves history server roster)
    (consistent : Consistent profile server roster) (here : roster user.queue = some user)
    (staying : user.quitReason = none) (message : Message) :
    Follows key
      (moves ++ if user.registered then message.moves profile.channelLimit user.queue else [])
      (history ++ Deed.ofLines start user.queue (Handler.handle message server user).replies)
      (Handler.handle message server user).server
      (Function.update roster user.queue
        (some (Handler.handle message server user).user.settled)) := by
  have more : ∀ deeds, history ⊆ history ++ deeds := fun _ => List.subset_append_left _ _
  by_cases other : ∀ command ∈ [Command.join, .part, .topic], message.verb ≠ .command command
  · rw [Message.moves_of_other other, ite_self, List.append_nil]
    exact (acts (Handler.handle_acts message server user) follows consistent here staying other).mono
      rfl (more _) fun _ _ => id
  simp only [not_forall, not_not, exists_prop] at other
  obtain ⟨command, listed, asked⟩ := other
  have settled : ∀ {reaction : Reaction}, reaction.user = user →
      Function.update roster user.queue (some reaction.user.settled) = roster := by
    intro reaction same
    rw [same, User.settled_eq staying, ← here, Function.update_eq_self]
  have late : ∀ command ∈ [Command.join, .part, .topic],
      command.beforeRegistration = false ∧ command ≠ .user ∧ command.minParams = 1 := by decide
  obtain ⟨closed, notUser, least⟩ := late command listed
  by_cases registered : user.registered = true
  · rw [if_pos registered]
    by_cases given : message.params = []
    · have rejected : Handler.handle message server user =
          Handler.reject (Handler.tooFewParams command 0) server user := by
        simp [Handler.handle, asked, registered, notUser, Message.hasEnoughParams, least, given]
      rw [rejected, settled rfl, Message.moves_of_blank given, List.append_nil]
      exact follows.mono rfl (more _) fun _ _ => id
    · rw [Handler.handle_eq_run asked registered notUser
        (least ▸ List.length_pos_iff.mpr given)]
      simp only [List.mem_cons, List.not_mem_nil, or_false] at listed
      rcases listed with rfl | rfl | rfl
      · have same : (Handler.join (message.param 0) server user).user = user :=
          Handler.forEach_user fun name named _ => (Handler.joinOne_act asked named registered).2
        exact (settled same).symm ▸ follows.join consistent here registered asked
      · have same : (Handler.part (message.param 0) (message.param 1) server user).user = user :=
          Handler.forEach_user fun name _ _ => (Handler.partOne_act asked registered _ name).2
        exact (settled same).symm ▸ follows.part consistent here registered asked
      · have same : (Handler.topic (message.param 0) message.params[1]? server user).user = user :=
          (Handler.topic_confined _ _ user).unchanged server
        exact (settled same).symm ▸ follows.topicOf consistent here registered asked
  · have early : ∀ command ∈ [Command.nick, .user, .ping, .pong, .quit],
        command.beforeRegistration = true := by decide
    have rejected := @Handler.handle_unheard message server user (eq_false_of_ne_true registered)
      fun other listed same => by
        cases asked.symm.trans same
        cases closed.symm.trans (early command listed)
    rw [if_neg registered, List.append_nil, rejected, settled rfl]
    exact follows.mono rfl (more _) fun _ _ => id

end Follows

end IrcServer
