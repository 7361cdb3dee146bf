import IrcServer.Proofs.Keyed
import IrcServer.Proofs.Members

namespace IrcServer

/-! Channels that are left, and given up once nobody is in them.

A channel is left where it was found, and given up where its own name stands.  In a directory that
lists every channel under its own name this is one place, so that leaving changes one entry, and
a departure every entry, by `Channel.without`. -/

namespace Channel

variable {channel left : Channel} {nick : Text}

theorem without_eq_ite (channel : Channel) (nick : Text) :
    channel.without nick =
      if (channel.leave nick).1 = .emptyAfter then none else some (channel.leave nick).2 := by
  unfold without
  split
  · rename_i emptied
    rw [emptied, if_pos rfl]
  · rename_i stays same
    rw [same, if_neg stays]

/-- Who is not in a channel changes nothing by leaving it. -/
theorem without_of_absent (absent : channel.isMember nick = false) :
    channel.without nick = some channel := by
  rw [without, leave, if_neg (by simp [absent])]

/-- A channel that may have lost members, and nothing else. -/
def Lessened (channel left : Channel) : Prop :=
  ∃ members, left = { channel with members } ∧ members ⊆ channel.members

theorem Lessened.refl (channel : Channel) : channel.Lessened channel :=
  ⟨channel.members, rfl, List.Subset.refl _⟩

theorem Lessened.trans {middle : Channel} (first : channel.Lessened middle)
    (second : middle.Lessened left) : channel.Lessened left := by
  obtain ⟨members, rfl, kept⟩ := first
  obtain ⟨fewer, rfl, stillKept⟩ := second
  exact ⟨fewer, rfl, List.Subset.trans stillKept kept⟩

theorem lessened_leave (channel : Channel) (nick : Text) :
    channel.Lessened (channel.leave nick).2 := by
  unfold leave
  split
  · exact ⟨_, rfl, List.eraseP_subset⟩
  · exact .refl channel

theorem name_of_leave (channel : Channel) (nick : Text) :
    (channel.leave nick).2.name = channel.name := by
  obtain ⟨members, same, _⟩ := channel.lessened_leave nick
  rw [same]

theorem members_of_leave (emptied : (channel.leave nick).1 = .emptyAfter) :
    (channel.leave nick).2.members = [] := by
  unfold leave at emptied ⊢
  split at emptied
  · rename_i present
    rw [if_pos present]
    by_contra others
    exact LeaveOutcome.noConfusion ((if_neg others).symm.trans emptied)
  · cases emptied

theorem name_of_without (stays : channel.without nick = some left) : left.name = channel.name := by
  rw [without_eq_ite] at stays
  split at stays
  · cases stays
  · cases stays
    exact channel.name_of_leave nick

end Channel

namespace Entries

variable {Key α : Type} [DecidableEq Key]

theorem erase_modify (key : Key) (change : α → α) (entries : List (Key × α)) :
    erase key (modify key change entries) = erase key entries := by
  unfold erase modify
  induction entries with
  | nil => rfl
  | cons entry rest inductionHypothesis =>
      rw [List.map_cons, List.filter_cons, List.filter_cons, inductionHypothesis]
      by_cases here : entry.1 = key <;> simp [here]

theorem filterMap_eq_erase (key : Key) (entries : List (Key × α)) :
    (entries.filterMap fun entry => if entry.1 = key then none else some entry) =
      erase key entries := by
  rw [erase, ← List.filterMap_eq_filter]
  refine List.filterMap_congr fun entry _ => ?_
  by_cases here : entry.1 = key <;> simp [Option.guard, here]

theorem filterMap_eq_modify (key : Key) (change : α → α) (entries : List (Key × α)) :
    (entries.filterMap fun entry =>
        if entry.1 = key then some (entry.1, change entry.2) else some entry) =
      modify key change entries := by
  rw [modify, ← List.filterMap_eq_map]
  refine List.filterMap_congr fun entry _ => ?_
  rw [Function.comp, apply_ite some]

end Entries

namespace Directory

theorem erase_modify {α : Type} (directory : Directory α) (name : Text) (change : α → α) :
    (directory.modify name change).erase name = directory.erase name :=
  Directory.ext (Entries.erase_modify _ _ _)

theorem erase_congr {α : Type} {directory : Directory α} {label other : Text}
    (same : label.fold = other.fold) : directory.erase label = directory.erase other :=
  Directory.ext (congrArg (Entries.erase · directory.entries) same)

theorem filterMap_filterMap {α : Type} (directory : Directory α) (first second : α → Option α) :
    (directory.filterMap first).filterMap second =
      directory.filterMap fun value => (first value).bind second := by
  refine Directory.ext ?_
  dsimp only [filterMap, Entries.filterMap]
  rw [List.filterMap_filterMap]
  refine List.filterMap_congr fun entry _ => ?_
  cases first entry.2 <;> rfl

variable {channels : Directory Channel} {name nick : Text}

theorem mem_entries_of_removeIfEmpty {channel : Channel} {entry : Text × Channel}
    (member : entry ∈ (channels.removeIfEmpty channel).entries) : entry ∈ channels.entries := by
  unfold removeIfEmpty at member
  dsimp only at member
  split at member
  · rw [erase_modify] at member
    exact (Entries.mem_erase.mp member).1
  · exact member

/-- An entry that is there after a channel was left was there before, and has only lost
members. -/
theorem of_mem_entries_leave {label : Text} {left : Channel}
    (member : (label, left) ∈ (channels.leave name nick).entries) :
    ∃ channel, (label, channel) ∈ channels.entries ∧ channel.Lessened left := by
  unfold leave at member
  split at member
  · exact ⟨left, member, .refl left⟩
  rename_i channel found
  have changed : (label, left) ∈
      (channels.modify name fun _ => (channel.leave nick).2).entries := by
    dsimp only at member
    split at member
    · exact mem_entries_of_removeIfEmpty member
    · exact member
  obtain ⟨old, listed, same⟩ := List.mem_map.mp changed
  split at same
  · rename_i here
    obtain ⟨rfl, rfl⟩ := Prod.mk.inj same
    exact ⟨channel, here ▸ mem_entries_of_find? found, channel.lessened_leave nick⟩
  · exact ⟨left, same ▸ listed, .refl left⟩

theorem of_mem_entries_foldl_leave {left : List Channel} {label : Text} {last : Channel}
    (member : (label, last) ∈ (left.foldl
      (fun channels channel => channels.leave channel.name nick) channels).entries) :
    ∃ channel, (label, channel) ∈ channels.entries ∧ channel.Lessened last := by
  induction left generalizing channels with
  | nil => exact ⟨last, member, .refl last⟩
  | cons first rest inductionHypothesis =>
      obtain ⟨middle, between, lessened⟩ := inductionHypothesis member
      obtain ⟨channel, before, earlier⟩ := of_mem_entries_leave between
      exact ⟨channel, before, earlier.trans lessened⟩

section Keyed

variable (keyed : channels.Keyed Channel.name)

include keyed

/-- A channel that is left by its last member stands under its own name, and is given up. -/
theorem Keyed.removeIfEmpty_modify {channel left : Channel}
    (found : channels.find? name = some channel) (same : left.name = channel.name)
    (emptied : left.members = []) :
    (channels.modify name fun _ => left).removeIfEmpty left = channels.erase name := by
  have label : left.name.fold = name.fold := same ▸ keyed.fold_eq found
  have known : (channels.modify name fun _ => left).find? left.name = some left := by
    rw [find?_modify, if_pos label, find?_congr label, found, Option.map_some]
  have closing : left.closeIfEmpty.1 = true := by simp [Channel.closeIfEmpty, emptied]
  rw [removeIfEmpty, if_pos ⟨known, closing⟩, erase_modify, erase_congr label, erase_modify]

theorem Keyed.leave_eq (name nick : Text) :
    channels.leave name nick = channels.filterMap fun channel =>
      if channel.name.fold = name.fold then channel.without nick else some channel := by
  unfold leave
  split
  · rename_i missing
    exact (keyed.filterMap_of_missing missing _).symm
  · rename_i channel found
    refine Directory.ext ?_
    rw [keyed.entries_filterMap_of_found found, Channel.without_eq_ite]
    dsimp only
    split
    · rename_i emptied
      rw [keyed.removeIfEmpty_modify found (channel.name_of_leave nick)
        (Channel.members_of_leave emptied)]
      exact (Entries.filterMap_eq_erase _ _).symm
    · exact (Entries.filterMap_eq_modify name.fold (fun _ => (channel.leave nick).2) _).symm

theorem Keyed.find?_leave (name nick label : Text) :
    (channels.leave name nick).find? label =
      if label.fold = name.fold then
        (channels.find? label).bind fun channel => channel.without nick
      else channels.find? label := by
  rw [keyed.leave_eq, find?_filterMap]
  cases found : channels.find? label with
  | none => split <;> rfl
  | some channel =>
      rw [Option.bind_some, keyed.fold_eq found]
      rfl

theorem Keyed.leave (name nick : Text) : (channels.leave name nick).Keyed Channel.name := by
  rw [keyed.leave_eq]
  refine keyed.filterMap fun channel left stays => ?_
  split at stays
  · exact Channel.name_of_without stays
  · rw [Option.some.inj stays]

/-- Channels of different names are left each by itself. -/
theorem Keyed.foldl_leave_eq {left : List Channel} (nick : Text)
    (distinct : (left.map fun channel => channel.name.fold).Nodup) :
    left.foldl (fun channels channel => channels.leave channel.name nick) channels =
      channels.filterMap fun channel =>
        if channel.name.fold ∈ left.map fun other => other.name.fold then channel.without nick
        else some channel := by
  induction left generalizing channels with
  | nil =>
      refine Directory.ext ?_
      exact ((List.filterMap_congr fun entry _ => rfl).trans List.filterMap_some).symm
  | cons first rest inductionHypothesis =>
      obtain ⟨apart, distinctRest⟩ := List.nodup_cons.mp distinct
      rw [List.foldl_cons, inductionHypothesis (keyed.leave first.name nick) distinctRest,
        keyed.leave_eq, filterMap_filterMap]
      refine congrArg channels.filterMap (funext fun channel => ?_)
      rw [List.map_cons]
      by_cases here : channel.name.fold = first.name.fold
      · rw [if_pos here, if_pos (by rw [here]; exact List.mem_cons_self)]
        refine (Option.bind_congr fun last stays => ?_).trans (Option.bind_fun_some _)
        rw [if_neg (by rw [Channel.name_of_without stays, here]; exact apart)]
      · rw [if_neg here, Option.bind_some]
        simp only [List.mem_cons, here, false_or]

end Keyed

end Directory

namespace Server

variable {server : Server} {nick : Text}

theorem mem_channelsOf_iff {channel : Channel} :
    channel ∈ server.channelsOf nick ↔
      channel ∈ server.channels.values ∧ channel.isMember nick = true := by
  rw [channelsOf, List.mem_filter, sortedChannels, List.mem_mergeSort]

theorem of_find?_leaveChannel {name label : Text} {left : Channel}
    (known : (server.leaveChannel name nick).channels.find? label = some left) :
    ∃ channel, server.channels.find? label = some channel ∧ channel.Lessened left := by
  obtain ⟨channel, listed, lessened⟩ :=
    Directory.of_mem_entries_leave (Directory.mem_entries_of_find? known)
  exact ⟨channel, Directory.find?_eq_some_iff.mpr listed, lessened⟩

/-- Who departs takes its memberships along and changes nothing else. -/
theorem of_find?_depart {user : User} {error : Option Text} {label : Text} {left : Channel}
    (known : (server.depart user error).1.channels.find? label = some left) :
    ∃ channel, server.channels.find? label = some channel ∧ channel.Lessened left := by
  unfold depart at known
  split at known
  · obtain ⟨channel, listed, lessened⟩ :=
      Directory.of_mem_entries_foldl_leave (Directory.mem_entries_of_find? known)
    exact ⟨channel, Directory.find?_eq_some_iff.mpr listed, lessened⟩
  · exact ⟨left, known, .refl left⟩

theorem find?_leaveChannel_of_none {name label : Text}
    (absent : server.channels.find? label = none) :
    (server.leaveChannel name nick).channels.find? label = none := by
  refine Option.eq_none_iff_forall_ne_some.mpr fun left known => ?_
  obtain ⟨channel, found, _⟩ := of_find?_leaveChannel known
  cases absent.symm.trans found

theorem find?_depart_of_none {user : User} {error : Option Text} {label : Text}
    (absent : server.channels.find? label = none) :
    (server.depart user error).1.channels.find? label = none := by
  refine Option.eq_none_iff_forall_ne_some.mpr fun left known => ?_
  obtain ⟨channel, found, _⟩ := of_find?_depart known
  cases absent.symm.trans found

variable (keyed : server.channels.Keyed Channel.name)

include keyed

theorem find?_leaveChannel (name nick other : Text) :
    (server.leaveChannel name nick).channels.find? other =
      if other.fold = name.fold then
        (server.channels.find? other).bind fun channel => channel.without nick
      else server.channels.find? other :=
  keyed.find?_leave name nick other

/-- No two of them have the same name, in whatever case. -/
theorem nodup_channelsOf (nick : Text) :
    ((server.channelsOf nick).map fun channel => channel.name.fold).Nodup := by
  have sorted : (server.sortedChannels.map fun channel => channel.name.fold).Nodup := by
    rw [sortedChannels, ((List.mergeSort_perm _ _).map _).nodup_iff, keyed.names_eq_keys]
    exact server.channels.distinct
  exact sorted.sublist (List.filter_sublist.map _)

/-- To leave every channel that one is in is to be taken from all channels. -/
theorem channels_removeUser (nick : Text) :
    (server.removeUser nick).channels =
      server.channels.filterMap fun channel => channel.without nick := by
  refine (keyed.foldl_leave_eq nick (nodup_channelsOf keyed nick)).trans (Directory.ext ?_)
  refine List.filterMap_congr fun entry member => ?_
  dsimp only
  split
  · rfl
  · rename_i elsewhere
    have absent : entry.2.isMember nick = false := by
      refine eq_false_of_ne_true fun present => elsewhere ?_
      exact List.mem_map_of_mem (mem_channelsOf_iff.mpr ⟨List.mem_map_of_mem member, present⟩)
    rw [Channel.without_of_absent absent]

theorem channels_depart (user : User) (error : Option Text) :
    (server.depart user error).1.channels =
      if user.registered then server.channels.filterMap fun channel => channel.without user.nick
      else server.channels := by
  unfold depart
  split
  · exact channels_removeUser keyed user.nick
  · rfl

end Server

end IrcServer
