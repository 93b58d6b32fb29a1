import Iec104North.Library.StatusLog

/-!
# Replicas

A source sends messages which state values of keys, and a replica writes down
what it is told.  Messages are queued, but some are urgent and may overtake
those sent before them, so that the replica can hear an old value after a new
one.

It does not matter in the end, if the messages settle on a value: the last
queued message about the key states it, and so does every urgent one since.
Overtaking keeps what messages settle on, so the replica ends with this value.
-/

namespace Iec104North.Library

variable {Message Key Value : Type*}

/-! ## Delivery -/

section Delivery

variable {urgent : Message → Bool}

/-- An order in which messages arrive: urgent ones overtake others. -/
inductive Delivered (urgent : Message → Bool) (sent : List Message) :
    List Message → Prop where
  | inOrder : Delivered urgent sent sent
  | overtake (before after : List Message) {earlier message : Message} :
      urgent message = true →
        Delivered urgent sent (before ++ earlier :: message :: after) →
        Delivered urgent sent (before ++ message :: earlier :: after)

/-- Nothing is lost, made up or doubled. -/
theorem Delivered.perm {sent arrived : List Message}
    (delivered : Delivered urgent sent arrived) : arrived.Perm sent := by
  induction delivered with
  | inOrder => exact List.Perm.refl sent
  | overtake before after isUrgent delivered ih =>
      exact ((List.Perm.swap _ _ after).append_left before).trans ih

end Delivery

/-! ## What a replica knows -/

section Replicas

variable [DecidableEq Key] (statements : Message → List (Key × Value))

/-- One value is written down. -/
def writeDown (known : Key → Option Value) (statement : Key × Value) :
    Key → Option Value :=
  Function.update known statement.1 (some statement.2)

/-- What is known after some messages. -/
def replay (known : Key → Option Value) (messages : List Message) :
    Key → Option Value :=
  (messages.flatMap statements).foldl writeDown known

@[simp]
theorem replay_append (known : Key → Option Value)
    (first second : List Message) :
    replay statements known (first ++ second) =
      replay statements (replay statements known first) second := by
  rw [replay, List.flatMap_append, List.foldl_append]
  rfl

/-- The value a statement gives a key. -/
def valueFor (key : Key) (statement : Key × Value) : Option Value :=
  if statement.1 = key then some statement.2 else none

theorem valueFor_eq_some_iff {key : Key} {statement : Key × Value}
    {value : Value} :
    valueFor key statement = some value ↔ statement = (key, value) := by
  rw [valueFor, Option.ite_none_right_eq_some, Option.some.injEq,
    Prod.ext_iff]

theorem foldl_writeDown (known : Key → Option Value)
    (stated : List (Key × Value)) (key : Key) :
    stated.foldl writeDown known key =
      (lastStatement (valueFor key) stated).or (known key) := by
  induction stated using List.reverseRecOn with
  | nil => rfl
  | append_singleton stated statement ih =>
      rw [List.foldl_append, List.foldl_cons, List.foldl_nil,
        lastStatement_concat, writeDown, Function.update_apply, valueFor]
      by_cases same : statement.1 = key
      · rw [if_pos same.symm, if_pos same]
        rfl
      · rw [if_neg (Ne.symm same), if_neg same, ih]
        rfl

/-- What is known of a key is what was stated last. -/
theorem replay_apply (known : Key → Option Value)
    (messages : List Message) (key : Key) :
    replay statements known messages key =
      (lastStatement (valueFor key) (messages.flatMap statements)).or
        (known key) :=
  foldl_writeDown known _ key

end Replicas

/-! ## Settling on a value -/

section Settling

variable (statements : Message → List (Key × Value))
  (urgent : Message → Bool) (key : Key) (value : Value)

/-- The message states a value of the key. -/
def IsAbout (message : Message) : Prop :=
  ∃ stated, (key, stated) ∈ statements message

/-- The message states no other value of the key. -/
def Agrees (message : Message) : Prop :=
  ∀ stated, (key, stated) ∈ statements message → stated = value

/-- Every message about the key is urgent. -/
def OnlyUrgent (messages : List Message) : Prop :=
  ∀ message ∈ messages, IsAbout statements key message →
    urgent message = true

/-- The last queued message about the key and all after it agree. -/
def SettlesOn : List Message → Prop
  | [] => True
  | message :: rest =>
      (OnlyUrgent statements urgent key rest →
          Agrees statements key value message) ∧
        SettlesOn rest

variable {statements urgent key value}

theorem onlyUrgent_append_iff {first second : List Message} :
    OnlyUrgent statements urgent key (first ++ second) ↔
      OnlyUrgent statements urgent key first ∧
        OnlyUrgent statements urgent key second :=
  List.forall_mem_append

theorem onlyUrgent_cons_iff {message : Message} {rest : List Message} :
    OnlyUrgent statements urgent key (message :: rest) ↔
      (IsAbout statements key message → urgent message = true) ∧
        OnlyUrgent statements urgent key rest :=
  List.forall_mem_cons

/-- Earlier messages matter if nothing about the key is queued after them. -/
theorem settlesOn_append_iff {first second : List Message} :
    SettlesOn statements urgent key value (first ++ second) ↔
      (OnlyUrgent statements urgent key second →
          SettlesOn statements urgent key value first) ∧
        SettlesOn statements urgent key value second := by
  induction first with
  | nil => simp [SettlesOn]
  | cons message rest ih =>
      rw [List.cons_append, SettlesOn, SettlesOn, ih, onlyUrgent_append_iff]
      constructor
      · rintro ⟨agrees, settles, later⟩
        exact
          ⟨fun onlyUrgent =>
            ⟨fun inRest => agrees ⟨inRest, onlyUrgent⟩, settles onlyUrgent⟩,
            later⟩
      · rintro ⟨settles, later⟩
        exact
          ⟨fun onlyUrgent => (settles onlyUrgent.2).1 onlyUrgent.1,
            fun onlyUrgent => (settles onlyUrgent).2, later⟩

/-- Messages which all agree settle on the value. -/
theorem settlesOn_of_agrees {messages : List Message}
    (agree : ∀ message ∈ messages, Agrees statements key value message) :
    SettlesOn statements urgent key value messages := by
  induction messages with
  | nil => trivial
  | cons message rest ih =>
      rw [List.forall_mem_cons] at agree
      exact ⟨fun _ => agree.1, ih agree.2⟩

/-- Messages which agree can be added. -/
theorem SettlesOn.append {first second : List Message}
    (settles : SettlesOn statements urgent key value first)
    (agree : ∀ message ∈ second, Agrees statements key value message) :
    SettlesOn statements urgent key value (first ++ second) :=
  settlesOn_append_iff.mpr ⟨fun _ => settles, settlesOn_of_agrees agree⟩

/-- A queued message settles the key, whatever was stated before. -/
theorem settlesOn_append_queued (first : List Message)
    {second : List Message}
    (agree : ∀ message ∈ second, Agrees statements key value message)
    {queued : Message} (member : queued ∈ second)
    (isAbout : IsAbout statements key queued)
    (isQueued : urgent queued = false) :
    SettlesOn statements urgent key value (first ++ second) := by
  refine settlesOn_append_iff.mpr ⟨?_, settlesOn_of_agrees agree⟩
  intro onlyUrgent
  exact absurd (onlyUrgent queued member isAbout) (by simp [isQueued])

/-- Overtaking keeps what messages settle on. -/
theorem SettlesOn.overtake {before after : List Message}
    {earlier message : Message} (isUrgent : urgent message = true)
    (settles :
      SettlesOn statements urgent key value
        (before ++ earlier :: message :: after)) :
    SettlesOn statements urgent key value
      (before ++ message :: earlier :: after) := by
  rw [settlesOn_append_iff, SettlesOn, SettlesOn, onlyUrgent_cons_iff,
    onlyUrgent_cons_iff] at settles ⊢
  rcases settles with ⟨front, earlierAgrees, messageAgrees, behind⟩
  refine ⟨?_, ?_, ?_, behind⟩
  · rintro ⟨-, earlierUrgent, afterUrgent⟩
    exact front ⟨earlierUrgent, fun _ => isUrgent, afterUrgent⟩
  · rintro ⟨-, afterUrgent⟩
    exact messageAgrees afterUrgent
  · intro afterUrgent
    exact earlierAgrees ⟨fun _ => isUrgent, afterUrgent⟩

/-- Messages which settle on a value do so in every order of arrival. -/
theorem Delivered.settlesOn {sent arrived : List Message}
    (delivered : Delivered urgent sent arrived)
    (settles : SettlesOn statements urgent key value sent) :
    SettlesOn statements urgent key value arrived := by
  induction delivered with
  | inOrder => exact settles
  | overtake before after isUrgent delivered ih => exact ih.overtake isUrgent

variable [DecidableEq Key]

/-- Messages which are not about the key leave what is known of it. -/
theorem replay_of_not_about (known : Key → Option Value)
    {messages : List Message}
    (others : ∀ message ∈ messages, ¬ IsAbout statements key message) :
    replay statements known messages key = known key := by
  have silent :
      ∀ statement ∈ messages.flatMap statements,
        valueFor key statement = none := by
    intro statement member
    rcases List.mem_flatMap.mp member with ⟨message, inList, stated⟩
    rw [Option.eq_none_iff_forall_ne_some]
    intro value isValue
    rw [valueFor_eq_some_iff.mp isValue] at stated
    exact others message inList ⟨value, stated⟩
  have nothing :
      lastStatement (valueFor key) ([] ++ messages.flatMap statements) =
        none :=
    lastStatement_append_silent [] silent
  rw [List.nil_append] at nothing
  rw [replay_apply, nothing]
  rfl

/-- A message which agrees on the value makes it known. -/
theorem foldl_writeDown_of_agrees (known : Key → Option Value)
    {message : Message} (isAbout : IsAbout statements key message)
    (agrees : Agrees statements key value message) :
    (statements message).foldl writeDown known key = some value := by
  have last :
      lastStatement (valueFor key) (statements message) = some value := by
    rcases isAbout with ⟨stated, member⟩
    apply lastStatement_of_forall
    · refine ⟨(key, stated), member, ?_⟩
      rw [valueFor_eq_some_iff, agrees stated member]
    · intro statement inMessage other isValue
      rw [valueFor_eq_some_iff.mp isValue] at inMessage
      exact agrees other inMessage
  rw [foldl_writeDown, last]
  rfl

/-- The rule: a replica ends with the value its messages settle on. -/
theorem SettlesOn.replay_eq {messages : List Message}
    (settles : SettlesOn statements urgent key value messages)
    (someone : ∃ message ∈ messages, IsAbout statements key message)
    (known : Key → Option Value) :
    replay statements known messages key = some value := by
  induction messages generalizing known with
  | nil => simp at someone
  | cons message rest ih =>
      rw [replay, List.flatMap_cons, List.foldl_append]
      by_cases later : ∃ other ∈ rest, IsAbout statements key other
      · exact ih settles.2 later _
      have others : ∀ other ∈ rest, ¬ IsAbout statements key other :=
        fun other member isAbout => later ⟨other, member, isAbout⟩
      have agrees : Agrees statements key value message :=
        settles.1 fun other member isAbout =>
          (others other member isAbout).elim
      have isAbout : IsAbout statements key message := by
        rcases someone with ⟨other, member, isAbout⟩
        rcases List.mem_cons.mp member with rfl | inRest
        · exact isAbout
        · exact (others other inRest isAbout).elim
      calc
        replay statements ((statements message).foldl writeDown known) rest
              key =
            (statements message).foldl writeDown known key :=
          replay_of_not_about _ others
        _ = some value := foldl_writeDown_of_agrees known isAbout agrees

end Settling

end Iec104North.Library
