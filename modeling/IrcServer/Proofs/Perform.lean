import IrcServer.Proofs.Tracks

namespace IrcServer

/-! What an act comes to for the client that does it: its replies tell it of what it has done. -/

/-- A view in the middle of the list of names after a JOIN: `begun` has been listed so far, and
nothing else differs from the view before the JOIN. -/
structure Entering (before : View) (name : Text) (begun : List Member) (view : View) : Prop where
  nick : view.nick = before.nick
  entering : view.entering = some name
  rooms : ∀ label, view.rooms.find? label =
    if label.fold = name.fold then some ⟨name, begun⟩ else before.rooms.find? label

namespace Entering

variable {before view : View} {name : Text} {begun : List Member}

theorem start {nick : Text} (self : before.isSelf nick = true) (name : Text) :
    Entering before name [] (before.hear (.joined nick name)) := by
  rw [View.hear, if_pos self]
  exact ⟨rfl, rfl, fun label => Directory.find?_insert _ _ _ _⟩

theorem listed (entering : Entering before name begun view) (more : List Member) :
    Entering before name (begun ++ more) (view.hear (.listed name more)) := by
  rw [View.hear, if_pos entering.entering]
  refine ⟨entering.nick, entering.entering, fun label => ?_⟩
  rw [Directory.find?_modify, entering.rooms]
  split
  · rfl
  · rfl

theorem finish (entering : Entering before name begun view) :
    view.hear (.listEnded name) = { view with entering := none } := by
  rw [View.hear, if_pos entering.entering]

theorem names {server : Server} {user : User} (entering : Entering before name begun view)
    (single : ' ' ∉ server.profile.domain) (registered : user.registered = true)
    (nick : user.nick.IsWord) (isWord : name.IsWord) {texts : List Text}
    {groups : List (List Member)} (shows : List.Forall₂ Shows texts groups)
    (uncut : ∀ line ∈ texts.map fun text => server.reply user (.names name text), line.Uncut) :
    Entering before name (begun ++ groups.flatten)
      (view.after (texts.map fun text => server.reply user (.names name text))) := by
  induction shows generalizing begun view with
  | nil => simpa using entering
  | cons first _ inductionHypothesis =>
      obtain ⟨whole, rest⟩ := List.forall_mem_cons.mp uncut
      rw [List.map_cons, View.after_cons,
        Server.news_names single registered nick isWord first whole, List.flatten_cons,
        ← List.append_assoc]
      exact inductionHypothesis (entering.listed _) rest

end Entering

theorem Server.news_topic {server : Server} {user : User} (single : ' ' ∉ server.profile.domain)
    {channel title : Text} (uncut : (server.reply user (.topic channel title)).Uncut) :
    (server.reply user (.topic channel title)).heard.news = .other := by
  obtain ⟨read, heard⟩ := heard_reply single uncut
  rw [heard, Heard.news, Reply.ofName?_code]
  change Heard.newsOfReply _ read = .other
  unfold Heard.newsOfReply
  split <;> rfl

namespace Tracks

variable {profile : Profile} {server : Server} {roster : Roster} {user : User}
  {message : Message} {reaction : Reaction} {view : View}

theorem isSelf (tracks : Tracks server user view) (registered : user.registered = true) :
    view.isSelf user.nick = true :=
  (View.isSelf_iff (tracks.nick registered)).mpr rfl

theorem entered (tracks : Tracks server user view) (registered : user.registered = true)
    (legible : user.Legible) (nick : user.nick.IsWord) (single : ' ' ∉ server.profile.domain)
    {name : Text} {channel : Channel} (same : channel.name.fold = name.fold)
    (word : channel.name.IsWord) (present : channel.isMember user.nick = true) {limit : Nat}
    (valid : ∀ member ∈ channel.members, Nickname.isValid limit member.nick = true)
    (uncut : ∀ line ∈ (Handler.entered name channel server user).replies, line.Uncut) :
    Tracks (server.setChannel name channel) user
      (view.after (Handler.entered name channel server user).replies) := by
  have shape : (Handler.entered name channel server user).replies =
      user.line .join [.word channel.name] none ::
        ((channel.topic.toList.map fun title =>
            (server.setChannel name channel).reply user (.topic channel.name title)) ++
          ((nameTexts ((server.setChannel name channel).namesBudget channel) []
              channel.members).map fun text =>
            (server.setChannel name channel).reply user (.names channel.name text)) ++
          [(server.setChannel name channel).reply user (.endOfNames channel.name)]) := by
    simp [Handler.entered, Server.namesReplies, Function.comp_def]
  have single : ' ' ∉ (server.setChannel name channel).profile.domain := single
  rw [shape] at uncut ⊢
  obtain ⟨first, uncut⟩ := List.forall_mem_cons.mp uncut
  obtain ⟨uncut, last⟩ := List.forall_mem_append.mp uncut
  obtain ⟨titles, names⟩ := List.forall_mem_append.mp uncut
  have untold : ∀ line ∈ channel.topic.toList.map fun title =>
      (server.setChannel name channel).reply user (.topic channel.name title),
      line.heard.news = .other := by
    intro line member
    obtain ⟨title, _, rfl⟩ := List.mem_map.mp member
    exact Server.news_topic single (titles _ member)
  obtain ⟨groups, shows, flat⟩ := nameTexts_show valid
  have entering := (Entering.start (tracks.isSelf registered) channel.name).names single registered
    nick word shows names
  have ended := Server.news_endOfNames single registered nick word
    (List.forall_mem_singleton.mp last)
  rw [View.after_cons, legible.news_join word first, View.after_append, View.after_append,
    View.after_other untold, View.after_cons, View.after_nil, ended, entering.finish]
  refine ⟨rfl, fun known => entering.nick.trans (tracks.nick known), fun label => ?_⟩
  have own : channel.roomFor user = some channel.room := by
    rw [Channel.roomFor, if_pos ⟨registered, present⟩]
  rw [entering.rooms, Server.room?_setChannel, same, flat, List.nil_append, tracks.rooms, own]
  rfl

theorem parted (tracks : Tracks server user view) (consistent : Consistent profile server roster)
    (registered : user.registered = true) (legible : user.Legible) {name reason : Text}
    {channel : Channel} (same : channel.name.fold = name.fold) (word : channel.name.IsWord)
    (uncut : (Handler.partLine user channel.name reason).Uncut) :
    Tracks (server.leaveChannel name user.nick) user
      (view.after [Handler.partLine user channel.name reason]) := by
  rw [View.after_cons, View.after_nil, legible.news_part word uncut, View.hear,
    if_pos (tracks.isSelf registered)]
  refine ⟨tracks.settled, tracks.nick, fun label => ?_⟩
  rw [Directory.find?_erase, consistent.room?_left_self, same, tracks.rooms]

theorem renamed (tracks : Tracks server user view) (consistent : Consistent profile server roster)
    (here : roster user.queue = some user) (registered : user.registered = true)
    (legible : user.Legible) {nick : Text} (word : nick.IsWord)
    (free : server.heldByOther user nick = false)
    (uncut : (user.line .nick [.word nick] none).Uncut) :
    Tracks (server.rename user nick) (user.setNick nick)
      (view.after [user.line .nick [.word nick] none]) := by
  have rooms : ∀ label, (server.rename user nick).room? (user.setNick nick) label =
      (server.room? user label).map (Room.rename user.nick nick) :=
    consistent.room?_renamed rfl fun _ _ found _ =>
      consistent.isMember_renamed_self here free found
  rw [View.after_cons, View.after_nil, legible.news_nick word uncut, View.hear,
    if_pos (tracks.isSelf registered)]
  refine ⟨tracks.settled, fun _ => rfl, fun label => ?_⟩
  rw [rooms, Directory.find?_map, tracks.rooms]

theorem room?_unregistered (unregistered : user.registered = false) (name : Text) :
    server.room? user name = none := by
  refine Option.eq_none_iff_forall_ne_some.mpr fun room found => ?_
  obtain ⟨_, _, registered, _⟩ := Server.room?_eq_some_iff.mp found
  rw [unregistered] at registered
  cases registered

theorem unregistered (tracks : Tracks server user view) {later : Server} {present : User}
    (before : user.registered = false) (after : present.registered = false) :
    Tracks later present view := by
  refine ⟨tracks.settled, fun known => ?_, fun name => ?_⟩
  · rw [after] at known
    cases known
  · rw [tracks.rooms, room?_unregistered before, room?_unregistered after]

/-- After the welcome itself come answers. -/
theorem welcomeReplies_eq (server : Server) (user : User) :
    ∃ rest, server.welcomeReplies user = .welcome user.fullName :: rest ∧
      ∀ fullName, .welcome fullName ∉ rest := by
  refine ⟨_, rfl, fun fullName member => ?_⟩
  rcases List.mem_append.mp member with counted | motd
  · rcases List.mem_append.mp counted with named | counted
    · simp at named
    · exact Handler.unwelcoming_countReplies _ _ counted
  · exact Handler.unwelcoming_motdReplies _ _ motd

theorem welcomed (tracks : Tracks server user view) (unregistered : user.registered = false)
    {later : Server} {present : User} (registered : present.registered = true)
    (word : present.nick.IsWord) (single : ' ' ∉ later.profile.domain)
    (nowhere : ∀ name, later.room? present name = none)
    (uncut : ∀ line ∈ (later.welcomeReplies present).map (later.reply present), line.Uncut) :
    Tracks later present
      (view.after ((later.welcomeReplies present).map (later.reply present))) := by
  obtain ⟨rest, shape, unwelcoming⟩ := welcomeReplies_eq later present
  rw [shape, List.map_cons] at uncut ⊢
  obtain ⟨first, others⟩ := List.forall_mem_cons.mp uncut
  have answers : ∀ line ∈ rest.map (later.reply present), Answer later present line :=
    .of_reply rfl rfl (fun _ => rfl) unwelcoming
  have idle : ∀ line ∈ rest.map (later.reply present), line.heard.news.Idle :=
    fun line member => (answers line member).idle_news single (others line member)
  have settled : View.entering { view with nick := some present.nick } = none := tracks.settled
  rw [View.after_cons, Server.news_welcome single registered word first, View.hear,
    View.after_idle settled idle]
  refine ⟨tracks.settled, fun _ => rfl, fun name => ?_⟩
  rw [tracks.rooms, room?_unregistered unregistered, nowhere]

theorem enrolled (tracks : Tracks server user view) (consistent : Consistent profile server roster)
    (unregistered : user.registered = false) {nick : Text} {given : User}
    (nickGiven : given.nick? = some nick) (free : server.users.contains nick = false)
    (word : nick.IsWord) (single : ' ' ∉ server.profile.domain)
    (uncut : ∀ line ∈ (Handler.enrolled nick given server user).replies, line.Uncut) :
    Tracks (Handler.enrolled nick given server user).server
      (Handler.enrolled nick given server user).user
      (view.after (Handler.enrolled nick given server user).replies) := by
  have named : (Handler.enrolled nick given server user).user.nick = nick := by
    change given.nick?.getD User.unnamed = nick
    rw [nickGiven, Option.getD_some]
  refine tracks.welcomed unregistered rfl (named.symm ▸ word) single (fun name => ?_) uncut
  refine Option.eq_none_iff_forall_ne_some.mpr fun room found => ?_
  obtain ⟨channel, listed, _, present, _⟩ := Server.room?_eq_some_iff.mp found
  rw [named, consistent.isMember_free free listed] at present
  cases present

theorem perform (tracks : Tracks server user view) (consistent : Consistent profile server roster)
    (tidy : Tidy profile server roster) (here : roster user.queue = some user)
    (said : Event.Tidy profile (.said user.queue message)) (single : ' ' ∉ profile.domain)
    (act : Act message server user reaction) (uncut : ∀ line ∈ reaction.replies, line.Uncut) :
    Tracks reaction.server reaction.user (view.after reaction.replies) := by
  have profileEq := consistent.registry.profileEq
  have single : ' ' ∉ server.profile.domain := profileEq ▸ single
  have later := consistent.act here act
  have laterTidy := tidy.act here said act
  have legible : user.registered = true → user.Legible := consistent.legible tidy here
  have nick : user.registered = true → user.nick.IsWord := consistent.nick_isWord here
  have answered : ∀ {replies : List Line}, (∀ line ∈ replies, Answer server user line) →
      (∀ line ∈ replies, line.Uncut) → view.after replies = view :=
    fun answers uncut => View.after_idle tracks.settled fun line member =>
      (answers line member).idle_news single (uncut line member)
  cases act with
  | still _ answers =>
      rw [answered answers uncut]
      exact tracks
  | marked _ _ answers | empowered _ _ answers =>
      rw [answered answers uncut]
      exact tracks.stay (fun known => ⟨known, rfl⟩)
        (Server.room?_of_channels (Server.refresh_channels _ _) user)
  | @joined name channel _ _ registered valid listed _ absent =>
      obtain ⟨_, _, same, _, _⟩ := consistent.joinable (profileEq ▸ valid) listed
      have found := server.find?_setChannel_self name { channel with
        members := channel.members ++ [⟨user.nick, (server.channels.find? name).isNone⟩] }
      have word := later.name_isWord laterTidy found
      exact tracks.entered registered (legible registered) (nick registered) single same word
        ((Channel.isMember_append _ _ _).mpr (.inr rfl))
        (fun member present => later.member_valid found present) uncut
  | parted _ registered found =>
      exact tracks.parted consistent registered (legible registered)
        (consistent.keyed.fold_eq found) (consistent.name_isWord tidy found)
        (List.forall_mem_singleton.mp uncut)
  | changed _ registered found present =>
      rw [View.after_cons, View.after_nil, (legible registered).news_mode
        (consistent.name_isWord tidy found) (consistent.target_isWord found present)
        (List.forall_mem_singleton.mp uncut)]
      exact tracks.modify (consistent.keyed.fold_eq found)
        (consistent.room?_changed found _ user)
  | titled _ registered found =>
      rw [View.after_cons, View.after_nil, (legible registered).news_other (.inr (.inr rfl))
        (List.forall_mem_singleton.mp uncut)]
      exact tracks.stay (fun known => ⟨known, rfl⟩) (Server.room?_titled found _ user)
  | renamed _ registered valid _ free =>
      exact tracks.renamed consistent here registered (legible registered)
        (Nickname.isWord_of_isValid valid) free (List.forall_mem_singleton.mp uncut)
  | named _ unregistered => exact tracks.unregistered unregistered unregistered
  | introduced _ _ unregistered answers =>
      rw [answered answers uncut]
      exact tracks.unregistered unregistered unregistered
  | @enrolled chosen _ _ unregistered giving nickGiven _ free =>
      have word : chosen.IsWord := by
        rcases giving with ⟨_, rfl, valid⟩ | ⟨_, _, _, rfl⟩
        · exact Nickname.isWord_of_isValid valid
        · exact Nickname.isWord_of_isValid (consistent.registry.valid here nickGiven)
      exact tracks.enrolled consistent unregistered nickGiven free word single uncut

/-- What a client relays to itself is talk. -/
theorem idle_of_own (consistent : Consistent profile server roster) (tidy : Tidy profile server roster)
    (here : roster user.queue = some user) (act : Act message server user reaction)
    (uncut : ∀ line ∈ linesTo user.queue reaction.relayed, line.Uncut) :
    ∀ line ∈ linesTo user.queue reaction.relayed, line.heard.news.Idle := by
  have framed : ∀ {later : Server}, later.profile = server.profile →
      later.users = server.users → later.connections = server.connections →
      Registry profile later roster := fun profileSame users connections =>
    consistent.registry.frame profileSame users fun _ contained => connections ▸ contained
  cases act with
  | still talk => exact idle_of_talk (consistent.legible tidy here) talk uncut
  | marked | empowered | named | introduced | enrolled =>
      intro line member
      cases member
  | joined =>
      intro line member
      have told := (framed rfl rfl rfl).reached here member
      exact absurd rfl (mem_others_iff.mp told.2).2
  | changed | titled =>
      intro line member
      have told := consistent.registry.reached here member
      exact absurd rfl (mem_others_iff.mp told.2).2
  | parted _ _ found =>
      intro line member
      have told := (framed rfl rfl rfl).reached here member
      rw [Channel.leave_snd (consistent.sound found).distinct] at told
      exact absurd rfl ((Channel.isMember_dropped _ _ _).mp (mem_nicks_iff.mp told.2)).2
  | @renamed nick _ registered valid _ free =>
      intro line member
      have profileEq := consistent.registry.profileEq
      have registry := consistent.registry.rename here registered (profileEq ▸ valid) free
      have present : Function.update roster user.queue (some (user.setNick nick)) user.queue =
          some (user.setNick nick) := Function.update_self _ _ _
      exact absurd rfl (mem_peersIn_iff.mp (registry.reached present member).2).2

/-- A view follows a whole reaction to a message of its own client. -/
theorem perform_acts (tracks : Tracks server user view)
    (consistent : Consistent profile server roster) (tidy : Tidy profile server roster)
    (here : roster user.queue = some user) (said : Event.Tidy profile (.said user.queue message))
    (single : ' ' ∉ profile.domain) (acts : Acts message server user reaction)
    (staying : reaction.user.quitReason = none)
    (relayed : ∀ line ∈ linesTo user.queue reaction.relayed, line.Uncut)
    (replied : ∀ line ∈ reaction.replies, line.Uncut) :
    Tracks reaction.server reaction.user (view.after reaction.replies) ∧
      ∀ line ∈ linesTo user.queue reaction.relayed, line.heard.news.Idle := by
  induction acts generalizing roster view with
  | quit => cases staying
  | last act =>
      exact ⟨tracks.perform consistent tidy here said single act replied,
        idle_of_own consistent tidy here act relayed⟩
  | @next server user first rest act _ inductionHypothesis =>
      have queue := act.samePerson.1
      dsimp only at relayed replied ⊢
      rw [linesTo_append] at relayed ⊢
      obtain ⟨relayedFirst, relayedRest⟩ := List.forall_mem_append.mp relayed
      obtain ⟨repliedFirst, repliedRest⟩ := List.forall_mem_append.mp replied
      have present : Function.update roster user.queue (some first.user) first.user.queue =
          some first.user := by rw [queue, Function.update_self]
      obtain ⟨follows, idle⟩ := inductionHypothesis
        (tracks.perform consistent tidy here said single act repliedFirst)
        (consistent.act here act) (tidy.act here said act) present (queue ▸ said) staying
        (queue ▸ relayedRest) repliedRest
      rw [View.after_append]
      refine ⟨follows, List.forall_mem_append.mpr ⟨?_, queue ▸ idle⟩⟩
      exact idle_of_own consistent tidy here act relayedFirst

end Tracks

end IrcServer
