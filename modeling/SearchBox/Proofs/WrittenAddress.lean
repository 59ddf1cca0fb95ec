import Mathlib.Data.List.TakeWhile
import SearchBox.Connection.Address
import SearchBox.Proofs.CheckedWork
import SearchBox.Proofs.ConnectionParts
import SearchBox.Proofs.PercentCodes
import SearchBox.Proofs.TextCuts

/- Reading an address that was put together from its parts. Each part ends at the mark behind it, because no
   part has a mark in it and the password is in codes; what is behind the name of the system is read from left to
   right. A host can still be mistaken for one between brackets. -/
namespace SearchBox

namespace Address
variable {system user code host port name : Text}

/-- The characters that end a part of an address or are codes. -/
def marks : List Char := [':', '/', '@', '%', '?', '#']

def Unmarked (t : Text) : Prop := ∀ mark ∈ marks, mark ∉ t

instance (t : Text) : Decidable (Unmarked t) := List.decidableBAll (· ∉ t) marks

/-- A host that begins with a bracket counts as bracketed if its partner stands further on, in the host or in
    the port, with something between them. -/
def Bracketed (host port : Text) : Prop :=
  ∃ c inside behind, host ++ ':' :: port = '[' :: c :: inside ++ ']' :: behind

def ofParts (user password host name : Text) (port : Int) : Address :=
  { system := "postgresql+psycopg".toList, user := some user, password := some password, host := some host,
    port := some port, database := some name }

def written (user code host port name : Text) : Text :=
  "postgresql+psycopg".toList ++ ':' :: '/' :: '/' :: (user ++ ':' :: (code ++ '@' :: (host ++
    ':' :: (port ++ '/' :: name))))

theorem Unmarked.belongs {t : Text} (unmarked : Unmarked t) (belongs : Char → Bool)
    (others : ∀ c, c ∉ marks → belongs c = true) : ∀ c ∈ t, belongs c = true :=
  fun c member => others c fun mark => unmarked c mark member

theorem Unmarked.tail {c : Char} {t : Text} (unmarked : Unmarked (c :: t)) : Unmarked t :=
  fun mark isMark member => unmarked mark isMark (List.mem_cons_of_mem c member)

theorem system?_append (some : system ≠ []) (chars : system.all (fun c => isWordChar c || c = '+') = true)
    (rest : Text) :
    system? (system ++ ':' :: '/' :: '/' :: rest) = .some (system, rest) := by
  have run := Text.run_append (List.all_eq_true.mp chars) ':' (by decide) ('/' :: '/' :: rest)
  obtain ⟨c, more, rfl⟩ := List.exists_cons_of_ne_nil some
  unfold system?
  dsimp only
  rw [run.1, run.2]
  rfl

theorem cutUser_append (unmarked : Unmarked user) (coded : '@' ∉ code) (rest : Text) :
    cutUser (user ++ ':' :: (code ++ '@' :: rest)) = (some user, some code, rest) := by
  have run := Text.run_append (unmarked.belongs (fun c => c ≠ ':' && c ≠ '/') (by simp +contextual [marks]))
    ':' (by decide) (code ++ '@' :: rest)
  unfold cutUser
  simp only [run.1, run.2, Text.cutAt?_append coded]

theorem inner_run (plainHost : Unmarked host) (plainPort : Unmarked port) (name : Text) :
    (host ++ ':' :: (port ++ '/' :: name)).takeWhile (fun c => c ≠ '/' && c ≠ '?') = host ++ ':' :: port ∧
      (host ++ ':' :: (port ++ '/' :: name)).dropWhile (fun c => c ≠ '/' && c ≠ '?') = '/' :: name := by
  have inside : ∀ c ∈ host ++ ':' :: port, (c ≠ '/' && c ≠ '?') = true := by
    rw [List.forall_mem_append, List.forall_mem_cons]
    exact ⟨plainHost.belongs _ (by simp +contextual [marks]), rfl, plainPort.belongs _ (by simp +contextual [marks])⟩
  have run := Text.run_append inside '/' (by decide) name
  rwa [List.append_assoc, List.cons_append] at run

theorem bracketed_iff : Bracketed host port ↔
    ∃ inner c before after, host = '[' :: inner ∧
      Text.cutAtLast? ']' (inner ++ ':' :: port) = some (c :: before, after) := by
  constructor
  · rintro ⟨c, inside, behind, whole⟩
    obtain ⟨inner, rfl⟩ : ∃ inner, host = '[' :: inner := by
      cases host with
      | nil => exact absurd (List.cons.inj whole).1 (by decide)
      | cons first inner => exact ⟨inner, by rw [(List.cons.inj whole).1]⟩
    have tail : inner ++ ':' :: port = c :: (inside ++ ']' :: behind) := (List.cons.inj whole).2
    have member : ']' ∈ inner ++ ':' :: port := by simp [tail]
    obtain ⟨before, after, cut, split, absent⟩ := Text.cutAtLast?_of_mem member
    cases before with
    | nil =>
      rw [tail] at split
      exact absurd (by simp [← (List.cons.inj split).2]) absent
    | cons d before => exact ⟨inner, d, before, after, rfl, cut⟩
  · rintro ⟨inner, c, before, after, rfl, cut⟩
    refine ⟨c, before, after, ?_⟩
    rw [List.cons_append, (Text.cutAtLast?_eq_some.mp cut).1]
    rfl

theorem cutHost_plain {t : Text} (unbracketed : ∀ inner c before after, t = '[' :: inner →
    Text.cutAtLast? ']' (inner.takeWhile fun c => c ≠ '/' && c ≠ '?') ≠ some (c :: before, after)) :
    cutHost t =
      (let run := t.takeWhile fun c => c ≠ '/' && c ≠ '?' && c ≠ ':'
        if run = [] then none else some run,
        t.dropWhile fun c => c ≠ '/' && c ≠ '?' && c ≠ ':') := by
  unfold cutHost
  dsimp only
  split
  · rename_i bracketed
    split at bracketed
    · rename_i inner
      split at bracketed
      · rename_i c before after cut
        exact absurd cut (unbracketed inner c before after rfl)
      · cases bracketed
    · cases bracketed
  · rfl

theorem cutHost_open (plainHost : Unmarked host) (plainPort : Unmarked port) (some : host ≠ [])
    (unbracketed : ¬ Bracketed host port) (name : Text) :
    cutHost (host ++ ':' :: (port ++ '/' :: name)) = (.some host, ':' :: (port ++ '/' :: name)) := by
  have run := Text.run_append (plainHost.belongs (fun c => c ≠ '/' && c ≠ '?' && c ≠ ':')
    (by simp +contextual [marks])) ':' (by decide) (port ++ '/' :: name)
  rw [cutHost_plain, run.1, run.2]
  · simp only [if_neg some]
  · intro inner c before after opened cut
    obtain ⟨d, tail, rfl⟩ := List.exists_cons_of_ne_nil some
    obtain ⟨rfl, rfl⟩ := List.cons.inj opened
    have inside := (inner_run plainHost.tail plainPort name).1
    exact unbracketed (bracketed_iff.mpr ⟨tail, c, before, after, rfl, inside ▸ cut⟩)

theorem cutHost_bracketed (plainHost : Unmarked host) (plainPort : Unmarked port) (bracketed : Bracketed host port)
    (name : Text) : (cutHost (host ++ ':' :: (port ++ '/' :: name))).1 ≠ some host := by
  obtain ⟨inner, c, before, after, rfl, cut⟩ := bracketed_iff.mp bracketed
  have run := inner_run plainHost.tail plainPort name
  have read : cutHost ('[' :: inner ++ ':' :: (port ++ '/' :: name)) = (some (c :: before), after ++ '/' :: name) := by
    unfold cutHost
    simp only [List.cons_append, run.1, run.2, cut]
  rw [read]
  intro same
  rw [Option.some.inj same] at cut
  -- Otherwise the colon behind the host would be the last character of what is between the brackets.
  have shifted : inner ++ [':'] ++ port = '[' :: inner ++ (']' :: after) := by
    rw [List.append_assoc]
    exact (Text.cutAtLast?_eq_some.mp cut).1
  have colon := List.append_inj_left shifted (by simp)
  exact plainHost ':' (by decide) (by rw [← colon]; simp)

theorem cutBehind_append (mark : Char) {belongs : Char → Bool} {part : Text}
    (inside : ∀ c ∈ part, belongs c = true) (stop : Char) (ends : belongs stop = false) (rest : Text) :
    cutBehind mark belongs (mark :: (part ++ stop :: rest)) = (some part, stop :: rest) := by
  have run := Text.run_append inside stop ends rest
  rw [cutBehind, if_pos rfl, run.1, run.2]

theorem cutBehind_last (mark : Char) {belongs : Char → Bool} {part : Text}
    (inside : ∀ c ∈ part, belongs c = true) : cutBehind mark belongs (mark :: part) = (some part, []) := by
  rw [cutBehind, if_pos rfl, List.takeWhile_eq_self_iff.mpr inside, List.dropWhile_eq_nil_iff.mpr inside]

section Reading
variable (plainUser : Unmarked user) (coded : '@' ∉ code) (plainHost : Unmarked host)
  (plainPort : Unmarked port) (plainName : Unmarked name)
include plainUser coded

theorem written_front (host port name : Text) : ∃ behind,
    system? (written user code host port name) = some ("postgresql+psycopg".toList, behind) ∧
      cutUser behind = (some user, some code, host ++ ':' :: (port ++ '/' :: name)) :=
  ⟨_, system?_append (by decide) (by decide +kernel) _, cutUser_append plainUser coded _⟩

/-- Whatever the host is, the user and the password are read up to their marks. -/
theorem read_written_ok {a : Address} (done : read (written user code host port name) = .ok a) :
    a.user = some (Percent.decode user) ∧ a.password = some (Percent.decode code) ∧
      a.host = (cutHost (host ++ ':' :: (port ++ '/' :: name))).1 := by
  obtain ⟨behind, front, cut⟩ := written_front plainUser coded host port name
  unfold read at done
  rw [front] at done
  dsimp only at done
  rw [cut] at done
  obtain ⟨number, -, done⟩ := bind_ok done
  cases done
  exact ⟨rfl, rfl, rfl⟩

include plainHost plainPort plainName

theorem read_written_open (some : host ≠ []) (unbracketed : ¬ Bracketed host port) :
    read (written user code host port name) =
      (Integer.ofText port).map (ofParts user (Percent.decode code) host name) := by
  obtain ⟨behind, front, cut⟩ := written_front plainUser coded host port name
  have portCut := cutBehind_append ':'
    (plainPort.belongs (fun c => c ≠ '/' && c ≠ '?') (by simp +contextual [marks])) '/' (by decide) name
  have nameCut := cutBehind_last '/' (plainName.belongs (fun c => c ≠ '?') (by simp +contextual [marks]))
  have noOptions : cutBehind '?' (· ≠ '\n') [] = (none, []) := rfl
  simp only [read, front, cut, cutHost_open plainHost plainPort some unbracketed, portCut, nameCut, noOptions, Option.map_some,
    Option.map_none, Option.getD_none, Option.mapM_some, Percent.decode_plain (plainUser '%' (by decide)),
    Percent.decode_plain (plainName '%' (by decide))]
  cases Integer.ofText port with
  | error fault => rfl
  | ok n => rfl

end Reading

end Address

namespace Connection
open Address

theorem assembled_eq (env : Environment) (file : Assoc Text) :
    assembled env file = written (userSource.value env file) (Percent.encode (passwordSource.value env file))
      (hostSource.value env file) (portSource.value env file) (nameSource.value env file) := by
  have front : "postgresql+psycopg://".toList = "postgresql+psycopg".toList ++ [':', '/', '/'] := by decide
  unfold assembled written
  simp only [front, List.append_assoc, List.cons_append, List.nil_append]

def Unmarked (env : Environment) (parts : FileContent) : Prop :=
  ∀ s ∈ [userSource, hostSource, portSource, nameSource], Address.Unmarked (s.value env (partsOfFile parts))

instance (env : Environment) (parts : FileContent) : Decidable (Connection.Unmarked env parts) :=
  List.decidableBAll (fun s : Source => Address.Unmarked (s.value env (partsOfFile parts)))
    [userSource, hostSource, portSource, nameSource]

/-- An address put together from parts is read back with the same user, host and database and the number that its
    port stands for, unless the host is taken for one between brackets; then another host is read. The password
    comes back if it has no spaces in it; a space has become a plus sign. -/
theorem read_url {env : Environment} {parts : FileContent} (unset : env.nonEmpty? "DATABASE_URL".toList = none)
    (unmarked : Connection.Unmarked env parts) :
    let value (s : Source) : Text := s.value env (partsOfFile parts)
    (¬ Bracketed (value hostSource) (value portSource) →
        read (url env parts) = (Integer.ofText (value portSource)).map
          (ofParts (value userSource) (Percent.enplus (value passwordSource)) (value hostSource) (value nameSource))) ∧
      (∀ a, read (url env parts) = .ok a →
        (a.password = some (value passwordSource) ↔ ' ' ∉ value passwordSource)) ∧
      (Bracketed (value hostSource) (value portSource) →
        ∀ a, read (url env parts) = .ok a → a.host ≠ some (value hostSource)) := by
  intro value
  have plainUser : Address.Unmarked (value userSource) := unmarked userSource (by simp)
  have plainHost : Address.Unmarked (value hostSource) := unmarked hostSource (by simp)
  have plainPort : Address.Unmarked (value portSource) := unmarked portSource (by simp)
  have plainName : Address.Unmarked (value nameSource) := unmarked nameSource (by simp)
  have coded : '@' ∉ Percent.encode (value passwordSource) := Percent.not_mem_encode (by decide) _
  rw [url_of_unset unset, assembled_eq]
  refine ⟨?_, ?_, ?_⟩
  · intro unbracketed
    rw [read_written_open plainUser coded plainHost plainPort plainName (Source.value_ne_nil (by decide) env _) unbracketed,
      Percent.decode_encode]
  · intro a done
    rw [(read_written_ok plainUser coded done).2.1, Percent.decode_encode, Option.some.injEq, Percent.enplus_eq_iff]
  · intro bracketed a done
    rw [(read_written_ok plainUser coded done).2.2]
    exact cutHost_bracketed plainHost plainPort bracketed _

section Settings

theorem read_url_coded :
    let env : Environment := [("DB_USER".toList, "u".toList), ("DB_PASSWORD".toList, "p@ss:/+%ü".toList),
      ("DB_NAME".toList, "grids".toList), ("PGHOST".toList, "db.local".toList)]
    env.nonEmpty? "DATABASE_URL".toList = none ∧ Connection.Unmarked env none ∧
      read (url env none) = .ok (ofParts "u".toList "p@ss:/+%ü".toList "db.local".toList "grids".toList 5432) := by
  intro env
  have unset : env.nonEmpty? "DATABASE_URL".toList = none := by decide
  have unmarked : Connection.Unmarked env none := by decide +kernel
  have unbracketed : ¬ Bracketed (hostSource.value env (partsOfFile none)) (portSource.value env (partsOfFile none)) := by
    rintro ⟨c, inside, behind, whole⟩
    exact absurd (List.cons.inj whole).1 (by decide)
  refine ⟨unset, unmarked, ?_⟩
  rw [(read_url unset unmarked).1 unbracketed]
  decide +kernel

theorem space_lost :
    ¬ ∀ (env : Environment) (parts : FileContent), env.nonEmpty? "DATABASE_URL".toList = none →
        Connection.Unmarked env parts →
        ∃ a, read (url env parts) = .ok a ∧ a.password = some (passwordSource.value env (partsOfFile parts)) := by
  intro all
  obtain ⟨a, done, same⟩ := all [("DB_PASSWORD".toList, "a b".toList)] none (by decide) (by decide +kernel)
  have plus : read (url [("DB_PASSWORD".toList, "a b".toList)] none) =
      .ok (ofParts "app".toList "a+b".toList "127.0.0.1".toList "app".toList 5432) := by decide +kernel
  rw [plus] at done
  cases done
  exact absurd same (by decide)

end Settings

end Connection
end SearchBox
