import IrcServer.Proofs.Consistent
import IrcServer.Proofs.Lacks
import IrcServer.Proofs.RoundTrip

namespace IrcServer

/-! A control character that is in nothing that the server holds.

One lemma for each change of a user, a channel or the server says that it is not brought in unless
what is new holds it. -/

variable {bad : Char}

structure User.Lacks (bad : Char) (user : User) : Prop where
  host : bad ∉ user.host
  nick : ∀ nick ∈ user.nick?, bad ∉ nick
  username : ∀ username ∈ user.username?, bad ∉ username
  realname : bad ∉ user.realname
  away : ∀ message ∈ user.away, bad ∉ message
  quitReason : ∀ reason ∈ user.quitReason, bad ∉ reason

structure Channel.Lacks (bad : Char) (channel : Channel) : Prop where
  name : bad ∉ channel.name
  members : ∀ member ∈ channel.members, bad ∉ member.nick
  topic : ∀ title ∈ channel.topic, bad ∉ title

structure Profile.Lacks (bad : Char) (profile : Profile) : Prop where
  domain : bad ∉ profile.domain
  createdAt : bad ∉ profile.createdAt
  motd : ∀ motd ∈ profile.motd, ∀ line ∈ motd.lines, bad ∉ line

structure Server.Lacks (bad : Char) (server : Server) : Prop where
  profile : server.profile.Lacks bad
  users : ∀ user ∈ server.users.values, user.Lacks bad
  channels : ∀ channel ∈ server.channels.values, channel.Lacks bad

structure Message.Lacks (bad : Char) (message : Message) : Prop where
  verb : bad ∉ message.verb.word
  params : ∀ param ∈ message.params, bad ∉ param

namespace Message

theorem Lacks.param {message : Message} (clean : message.Lacks bad) (index : Nat) :
    bad ∉ message.param index := by
  rw [Message.param, List.getD_eq_getElem?_getD]
  cases found : message.params[index]? with
  | none => simp
  | some param => exact clean.params param (List.mem_of_getElem? found)

theorem body_subset (line : Text) : body line ⊆ line :=
  List.Subset.trans (body_sublist line).subset (Text.trimEndWhile_begins _ _).subset

/-- What is not in the body of a line is not in its message. -/
theorem lacks_of_parse? (control : bad.toNat < 32) {line : Text} {message : Message}
    (parsed : parse? line = some message) (clean : bad ∉ body line) : message.Lacks bad := by
  obtain ⟨_, _, afterOrigin, word, afterVerb, origin, split, _, verb, params⟩ :=
    parse?_eq_some_iff.mp parsed
  have tail : afterOrigin ⊆ body line := origin.suffix.subset
  constructor
  · rw [verb]
    rcases Verb.ofWord_cases word with ⟨command, _, known⟩ | unknown
    · rw [known]
      exact command.lacks_name control
    · rw [unknown]
      exact fun inside => clean (tail (split.word_subset inside))
  · intro param member inside
    exact clean (tail (split.suffix.subset (params.subset param member inside)))

end Message

/-! What is in a directory after a change. -/

namespace Directory

variable {α : Type} {directory : Directory α} {label : Text} {value other : α}

theorem of_mem_values_erase (member : value ∈ (directory.erase label).values) :
    value ∈ directory.values := by
  obtain ⟨entry, known, rfl⟩ := List.mem_map.mp member
  exact List.mem_map_of_mem (Entries.mem_erase.mp known).1

theorem of_mem_values_insert (member : value ∈ (directory.insert label other).values) :
    value = other ∨ value ∈ directory.values := by
  rw [values, insert, List.map_append, List.mem_append] at member
  rcases member with old | new
  · exact .inr (of_mem_values_erase old)
  · exact .inl (List.mem_singleton.mp new)

theorem of_mem_values_modify {change : α → α}
    (member : value ∈ (directory.modify label change).values) :
    ∃ old ∈ directory.values, value = old ∨ value = change old := by
  obtain ⟨entry, known, rfl⟩ := List.mem_map.mp member
  obtain ⟨old, held, rfl⟩ := List.mem_map.mp known
  use old.2, List.mem_map_of_mem held
  split <;> simp

theorem of_mem_values_map {change : α → α} (member : value ∈ (directory.map change).values) :
    ∃ old ∈ directory.values, value = change old := by
  obtain ⟨entry, known, rfl⟩ := List.mem_map.mp member
  obtain ⟨old, held, rfl⟩ := List.mem_map.mp known
  exact ⟨old.2, List.mem_map_of_mem held, rfl⟩

end Directory

/-! Users, channels and lines on behalf of a user. -/

namespace User.Lacks

variable {user : User}

theorem new (id : Nat) {host : Text} (clean : bad ∉ host) (queue : QueueId) :
    (User.new id host queue).Lacks bad := by
  constructor <;> simp [User.new, clean]

theorem setNick (own : user.Lacks bad) {nick : Text} (fresh : bad ∉ nick) :
    (user.setNick nick).Lacks bad := by
  constructor
  · exact own.host
  · simp [User.setNick, fresh]
  · exact own.username
  · exact own.realname
  · exact own.away
  · exact own.quitReason

theorem unnamed (control : bad.toNat < 32) : bad ∉ User.unnamed :=
  Text.lacks_printable control (by decide)

theorem shownNick (control : bad.toNat < 32) (own : user.Lacks bad) : bad ∉ user.nick := by
  rw [User.nick]
  cases given : user.nick? with
  | none => exact unnamed control
  | some nick => exact own.nick nick given

theorem shownUsername (control : bad.toNat < 32) (own : user.Lacks bad) :
    bad ∉ user.username := by
  rw [User.username]
  cases given : user.username? with
  | none => exact unnamed control
  | some username => exact own.username username given

theorem fullName (control : bad.toNat < 32) (own : user.Lacks bad) : bad ∉ user.fullName := by
  have signs : bad ≠ '!' ∧ bad ≠ '@' := by
    constructor <;> intro same <;> simp [same] at control
  simp [User.fullName, signs, own.shownNick control, own.shownUsername control, own.host]

theorem line (control : bad.toNat < 32) (own : user.Lacks bad) (command : Command)
    (words : List Text) (clean : ∀ word ∈ words, bad ∉ word) {text : Option Text}
    (final : ∀ last ∈ text, bad ∉ last) :
    bad ∉ (user.line command (words.map .word) text).raw := by
  apply Line.lacks_raw control (own.fullName control) (command.lacks_name control)
  · intro param member
    obtain ⟨word, held, rfl⟩ := List.mem_map.mp member
    exact (Param.lacks_raw control (clean word held)).1
  · exact final

end User.Lacks

theorem of_mem_changeFirst {α : Type} {wanted : α → Bool} {change : α → α} {items : List α}
    {item : α} (member : item ∈ changeFirst wanted change items) :
    ∃ old ∈ items, item = old ∨ item = change old := by
  induction items with
  | nil => cases member
  | cons first rest inductionHypothesis =>
      rw [changeFirst] at member
      split at member
      · rcases List.mem_cons.mp member with same | later
        · exact ⟨first, List.mem_cons_self, .inr same⟩
        · exact ⟨item, List.mem_cons_of_mem _ later, .inl rfl⟩
      · rcases List.mem_cons.mp member with same | later
        · exact ⟨first, List.mem_cons_self, .inl same⟩
        · obtain ⟨old, held, changed⟩ := inductionHypothesis later
          exact ⟨old, List.mem_cons_of_mem _ held, changed⟩

namespace Channel.Lacks

variable {channel left : Channel}

theorem new {name : Text} (clean : bad ∉ name) : (Channel.new name).Lacks bad := by
  constructor <;> simp [Channel.new, clean]

theorem lessened (clean : channel.Lacks bad) (less : channel.Lessened left) : left.Lacks bad := by
  obtain ⟨members, rfl, kept⟩ := less
  exact ⟨clean.name, fun member held => clean.members member (kept held), clean.topic⟩

theorem join (clean : channel.Lacks bad) {nick : Text} (fresh : bad ∉ nick) (operator : Bool) :
    (channel.join nick operator).2.Lacks bad := by
  rw [Channel.join]
  split
  · exact clean
  split
  · exact clean
  · constructor
    · exact clean.name
    · simpa [or_imp, forall_and, fresh] using clean.members
    · exact clean.topic

theorem rename (clean : channel.Lacks bad) (old : Text) {nick : Text} (fresh : bad ∉ nick) :
    (channel.rename old nick).2.Lacks bad := by
  constructor
  · exact clean.name
  · intro member held
    obtain ⟨before, known, rfl | rfl⟩ := of_mem_changeFirst held
    · exact clean.members member known
    · exact fresh
  · exact clean.topic

theorem setOperator (clean : channel.Lacks bad) (nick : Text) (operator : Bool) :
    (channel.setOperator nick operator).2.Lacks bad := by
  constructor
  · exact clean.name
  · intro member held
    obtain ⟨before, known, rfl | rfl⟩ := of_mem_changeFirst held
    · exact clean.members member known
    · exact clean.members before known
  · exact clean.topic

theorem setTopic (clean : channel.Lacks bad) {title : Text} (fresh : bad ∉ title) :
    (channel.setTopic title).Lacks bad := by
  constructor
  · exact clean.name
  · exact clean.members
  · rw [Channel.setTopic]
    split <;> simp [fresh]

end Channel.Lacks

theorem Server.lacks_departureReason (control : bad.toNat < 32) {user : User}
    (quits : ∀ reason ∈ user.quitReason, bad ∉ reason) {error : Option Text}
    (failed : ∀ text ∈ error, bad ∉ text) : bad ∉ departureReason user error := by
  rw [departureReason]
  cases said : user.quitReason with
  | some text => exact quits text said
  | none =>
      cases lost : error with
      | some text => exact failed text lost
      | none => exact Text.lacks_printable control (by decide)

/-! The server: what is found in it, and what its changes bring in. -/

namespace Server.Lacks

variable {server : Server} {user : User}

theorem new {profile : Profile} (clean : profile.Lacks bad) : (Server.new profile).Lacks bad := by
  constructor
  · exact clean
  · simp [Server.new, Directory.values, Directory.empty]
  · simp [Server.new, Directory.values, Directory.empty]

theorem found (clean : server.Lacks bad) {name : Text} {channel : Channel}
    (known : server.channels.find? name = some channel) : channel.Lacks bad :=
  clean.channels channel (Directory.mem_values_of_find? known)

theorem entry (clean : server.Lacks bad) {nick : Text}
    (known : server.users.find? nick = some user) : user.Lacks bad :=
  clean.users user (Directory.mem_values_of_find? known)

theorem sorted (clean : server.Lacks bad) {channel : Channel}
    (member : channel ∈ server.sortedChannels) : channel.Lacks bad :=
  clean.channels channel (List.mem_mergeSort.mp member)

theorem reply (control : bad.toNat < 32) (clean : server.Lacks bad) (own : user.Lacks bad)
    {reply : Reply} (said : reply.Lacks bad) :
    bad ∉ (server.reply user reply).raw := by
  apply Addressee.lacks_reply control clean.profile.domain _ said
  rw [Server.addressee]
  split
  · exact own.shownNick control
  · exact User.Lacks.unnamed control

theorem relay (server : Server) (nicks : List Text) {line : Line} (clean : bad ∉ line.raw) :
    ∀ delivery ∈ server.relay nicks line, bad ∉ delivery.line.raw := by
  intro delivery member
  rwa [(Server.of_mem_relay member).1]

/-- A change of the connections or of the count of operators. -/
theorem frame (clean : server.Lacks bad) {later : Server} (profile : later.profile = server.profile)
    (users : later.users = server.users) (channels : later.channels = server.channels) :
    later.Lacks bad := by
  constructor
  · exact profile ▸ clean.profile
  · exact users ▸ clean.users
  · exact channels ▸ clean.channels

theorem setChannel (clean : server.Lacks bad) (name : Text) {channel : Channel}
    (fresh : channel.Lacks bad) : (server.setChannel name channel).Lacks bad := by
  constructor
  · exact clean.profile
  · exact clean.users
  · intro other member
    rcases Directory.of_mem_values_insert member with rfl | old
    · exact fresh
    · exact clean.channels other old

theorem leaveChannel (clean : server.Lacks bad) (name nick : Text) :
    (server.leaveChannel name nick).Lacks bad := by
  constructor
  · exact clean.profile
  · exact clean.users
  · intro other member
    obtain ⟨entry, listed, rfl⟩ := List.mem_map.mp member
    obtain ⟨channel, known, less⟩ := Directory.of_mem_entries_leave listed
    exact (clean.channels channel (List.mem_map_of_mem known)).lessened less

theorem removeUser (clean : server.Lacks bad) (nick : Text) :
    (server.removeUser nick).Lacks bad := by
  constructor
  · exact clean.profile
  · intro other member
    exact clean.users other (Directory.of_mem_values_erase member)
  · intro other member
    obtain ⟨entry, listed, rfl⟩ := List.mem_map.mp member
    obtain ⟨channel, known, less⟩ := Directory.of_mem_entries_foldl_leave listed
    exact (clean.channels channel (List.mem_map_of_mem known)).lessened less

theorem refresh (clean : server.Lacks bad) (own : user.Lacks bad) :
    (server.refresh user).Lacks bad := by
  rw [Server.refresh]
  split
  · split
    · constructor
      · exact clean.profile
      · intro other member
        obtain ⟨old, known, rfl | rfl⟩ := Directory.of_mem_values_modify member
        · exact clean.users _ known
        · exact own
      · exact clean.channels
    · exact clean
  · exact clean

theorem enroll (clean : server.Lacks bad) (nick : Text) (own : user.Lacks bad) :
    (server.enroll nick user).Lacks bad := by
  constructor
  · exact clean.profile
  · intro other member
    rcases Directory.of_mem_values_insert member with rfl | old
    · exact own
    · exact clean.users other old
  · exact clean.channels

theorem rename (clean : server.Lacks bad) (own : user.Lacks bad) {nick : Text}
    (fresh : bad ∉ nick) : (server.rename user nick).Lacks bad := by
  constructor
  · exact clean.profile
  · intro other member
    rcases Directory.of_mem_values_insert member with rfl | old
    · exact own.setNick fresh
    · exact clean.users other (Directory.of_mem_values_erase old)
  · intro other member
    obtain ⟨channel, known, rfl⟩ := Directory.of_mem_values_map member
    exact (clean.channels channel known).rename _ fresh

theorem depart (control : bad.toNat < 32) (clean : server.Lacks bad) (own : user.Lacks bad)
    {error : Option Text} (reason : ∀ text ∈ error, bad ∉ text) :
    (server.depart user error).1.Lacks bad ∧
      ∀ delivery ∈ (server.depart user error).2, bad ∉ delivery.line.raw := by
  rw [Server.depart]
  split
  · constructor
    · exact (clean.removeUser user.nick).frame rfl rfl rfl
    · apply relay
      apply own.line control .quit [] (by simp)
      simpa using lacks_departureReason control own.quitReason reason
  · exact ⟨clean.frame rfl rfl rfl, by simp⟩

end Server.Lacks

end IrcServer
