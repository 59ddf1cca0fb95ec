import Mathlib.Data.List.Nodup
import SearchBox.Proofs.CheckedWork
import SearchBox.Proofs.RecordedWork
import SearchBox.Proofs.TextCuts
import SearchBox.Service

/- The key that a service tells for searching a grid, and the requests that it searches by. A service gives all
   its grids one key and hands all parameters of a request on to the search, which looks at nothing but the first
   value for that key. -/
namespace SearchBox
open Text

namespace Route

def gridPath (name : Text) : Text := "/api/grids/".toList ++ name

def rowsPath (name : Text) : Text := gridPath name ++ "/rows".toList

theorem splitAt_gridPath {name : Text} (noSlash : '/' ∉ name) :
    splitAt '/' (gridPath name) = [[], "api".toList, "grids".toList, name] := by
  have start : gridPath name = "/api/grids".toList ++ '/' :: name := rfl
  rw [start, splitAt_append_cons, splitAt_of_absent noSlash]
  rfl

theorem splitAt_rowsPath {name : Text} (noSlash : '/' ∉ name) :
    splitAt '/' (rowsPath name) = [[], "api".toList, "grids".toList, name, "rows".toList] := by
  have finish : "/rows".toList = '/' :: "rows".toList := by decide
  rw [rowsPath, finish, splitAt_append_cons, splitAt_gridPath noSlash]
  rfl

variable {name path : Text}

theorem ofSegments_grid {segments : List Text} (found : ofSegments segments = some (.grid name)) :
    name ≠ [] ∧ segments = [[], "api".toList, "grids".toList, name] := by
  unfold ofSegments at found
  split at found
  · split at found
    · split at found <;> cases found
    · split at found
      · cases found
      · split at found <;> cases found
  · rename_i first second rest _
    split at found
    · split at found <;> cases found
    · rename_i asset
      split at found
      · cases found
      · rename_i known
        push Not at known
        split at found
        · cases found
          exact ⟨List.cons_ne_nil _ _, by rw [known.1, known.2]⟩
        · split at found <;> cases found
        · cases found
  · cases found

theorem ofPath_grid : ofPath path = some (.grid name) ↔
    name ≠ [] ∧ '/' ∉ name ∧ path = gridPath name := by
  constructor
  · intro found
    obtain ⟨some, segments⟩ := ofSegments_grid found
    have member : name ∈ splitAt '/' path := by simp [segments]
    refine ⟨some, (mem_splitAt member).1, ?_⟩
    rw [← join_splitAt '/' path, segments]
    rfl
  · intro asked
    rcases asked with ⟨some, noSlash, rfl⟩
    obtain ⟨c, rest, rfl⟩ := List.exists_cons_of_ne_nil some
    rw [ofPath, splitAt_gridPath noSlash]
    rfl

theorem ofPath_rows (some : name ≠ []) (noSlash : '/' ∉ name) :
    ofPath (rowsPath name) = .some (.rows name) := by
  obtain ⟨c, rest, rfl⟩ := List.exists_cons_of_ne_nil some
  rw [ofPath, splitAt_rowsPath noSlash]
  rfl

end Route

theorem SearchKey.read_congr (k : SearchKey) {params others : Assoc Datum}
    (same : params.find? k.text = others.find? k.text) : k.read params = k.read others := by
  rw [read, read, same]

theorem Request.find?_arguments (r : Request) (key : Text) :
    r.arguments.find? key = (r.param? key).map .text := by
  simp only [arguments, param?, Assoc.find?, List.find?_map, Option.map_map]
  rfl

theorem SearchKey.read_arguments (k : SearchKey) (r : Request) :
    k.read r.arguments = .ok ((r.param? k.text).filter (· ≠ [])) := by
  rw [read, r.find?_arguments]
  match r.param? k.text with
  | none | some [] | some (_ :: _) => rfl

def Request.Gets (r : Request) (path : Text) : Prop := r.method = "GET".toList ∧ r.path = path

namespace Query

theorem fetch_start (table : Table) (dialect : Option Text) (rows : List Row) :
    (start table dialect).fetch rows = .ok rows := by
  have all (rows : List Row) : (start table dialect).selection rows = .ok rows := by
    induction rows with
    | nil => rfl
    | cons row rest ih =>
      rw [selection, ih]
      rfl
  exact all rows

theorem applyRequest_congr (debug : Bool) (q : Query) (spec : Search) (map : ColumnMap) {key : SearchKey}
    {params others : Assoc Datum} (same : key.read params = key.read others) :
    q.applyRequest debug spec map key params = q.applyRequest debug spec map key others := by
  rw [applyRequest, applyRequest, same]

end Query

namespace Grid

theorem apply_congr (debug : Bool) (g : Grid) (q : Query) {key : Option SearchKey} {params others : Assoc Datum}
    (same : (key.getD g.key).read params = (key.getD g.key).read others) :
    g.apply debug params q key = g.apply debug others q key := by
  simp only [apply, Query.applyRequest_congr debug q _ _ same]

def searchFor (g : Grid) (q : Query) (raw : Text) : Outcome Datum :=
  match g.search with
  | none => ⟨q, .ok .null⟩
  | some spec => (q.applySearch false spec (ColumnMap.ofColumns g.columns) raw).value

variable {key : SearchKey} {params : Assoc Datum}

theorem apply_asked {raw : Text} (asked : key.read params = .ok (some raw)) (g : Grid) (q : Query) :
    (g.apply false params q (some key)).value = g.searchFor q raw := by
  rw [apply, searchFor]
  cases g.search with
  | none => rfl
  | some spec =>
    rw [Logged.value_bind, Option.getD_some, Query.applyRequest, asked]
    rfl

theorem apply_unasked (nothing : key.read params = .ok none) (debug : Bool) (g : Grid) (q : Query) :
    (g.apply debug params q (some key)).value = ⟨q, .ok .null⟩ := by
  rw [apply]
  cases g.search with
  | none => rfl
  | some spec =>
    rw [Logged.value_bind, Option.getD_some, Query.applyRequest, nothing]
    rfl

end Grid

namespace Service

section Register
variable {key : SearchKey} {known grids registered : List Grid}

theorem register_cons {g : Grid} {rest : List Grid} (done : register key known (g :: rest) = .ok registered) :
    (known.any fun other => sameName other.name g.name) = false ∧
      register key (known ++ [{ g with key := key }]) rest = .ok registered := by
  rw [register] at done
  split at done
  · cases done
  · cases done
  · split at done
    · cases done
    · rename_i different
      exact ⟨Bool.eq_false_iff.mpr different, done⟩

theorem register_eq (done : register key known grids = .ok registered) :
    registered = known ++ grids.map fun g => { g with key := key } := by
  induction grids generalizing known with
  | nil =>
    cases done
    rw [List.map_nil, List.append_nil]
  | cons g rest ih =>
    rw [ih (register_cons done).2, List.map_cons, List.append_assoc, List.singleton_append]

theorem firstUnnamed?_none {index : Nat} (none : firstUnnamed? index grids = none) :
    ∀ g ∈ grids, ∃ name, g.name = .text name := by
  induction grids generalizing index with
  | nil => simp
  | cons g rest ih =>
    rw [firstUnnamed?] at none
    split at none
    · rename_i isText
      refine List.forall_mem_cons.mpr ⟨?_, ih none⟩
      cases named : g.name with
      | text name => exact ⟨name, rfl⟩
      | _ =>
        rw [named] at isText
        cases isText
    · cases none

theorem register_names (done : register key known grids = .ok registered)
    (named : ∀ g ∈ grids, ∃ name, g.name = .text name) (knownNames : (known.map (·.name)).Nodup) :
    (registered.map (·.name)).Nodup := by
  induction grids generalizing known with
  | nil =>
    cases done
    exact knownNames
  | cons g rest ih =>
    obtain ⟨different, done⟩ := register_cons done
    obtain ⟨⟨name, gName⟩, restNamed⟩ := List.forall_mem_cons.mp named
    refine ih done restNamed ?_
    rw [List.map_append, List.map_singleton, ← List.concat_eq_append]
    refine List.Nodup.concat ?_ knownNames
    intro member
    obtain ⟨other, inKnown, same⟩ := List.mem_map.mp member
    rw [gName] at same different
    have differs := List.any_eq_false.mp different other inKnown
    rw [same] at differs
    simp [sameName] at differs

end Register

/-- What a service that was made has: one key for everything, and a name of its own for each grid. -/
structure Uniform (s : Service) : Prop where
  requestKey : s.requestKey = some s.key
  gridKey : ∀ g ∈ s.grids, g.key = s.key
  named : ∀ g ∈ s.grids, ∃ name, g.name = .text name
  distinct : (s.grids.map (·.name)).Nodup

theorem make_ok {env : Environment} {config : FileContent} {grids : List Grid} {backend : Backend}
    {s : Service} (made : make env config grids backend = .ok s) :
    s.Uniform ∧ s.grids = (grids.map fun g => { g with key := s.key }) ∧ s.backend = backend ∧
      s.settings = .ofFields (Configuration.ofFile config) := by
  rw [make] at made
  obtain ⟨key, _, made⟩ := bind_ok made
  obtain ⟨registered, done, made⟩ := bind_ok made
  split at made
  · cases made
  · rename_i allNamed
    cases made
    have named := firstUnnamed?_none allNamed
    have kept : registered = grids.map fun g => { g with key := key } := register_eq done
    refine ⟨⟨rfl, ?_, ?_, register_names done named List.nodup_nil⟩, kept, rfl, rfl⟩
    · intro g member
      rw [kept] at member
      obtain ⟨given, _, rfl⟩ := List.mem_map.mp member
      rfl
    · intro g member
      rw [kept] at member
      obtain ⟨given, inGrids, rfl⟩ := List.mem_map.mp member
      exact named given inGrids

section Replies
variable {s : Service} {g : Grid} {name : Text} {r : Request}

theorem Uniform.find_grid (uniform : s.Uniform) (member : g ∈ s.grids) (named : g.name = .text name) :
    s.grids.find? (fun other => sameName other.name (.text name)) = some g := by
  have found : (s.grids.find? fun other => sameName other.name (.text name)).isSome = true := by
    rw [List.find?_isSome]
    exact ⟨g, member, by simp [named, sameName]⟩
  obtain ⟨other, found⟩ := Option.isSome_iff_exists.mp found
  have inGrids := List.mem_of_find?_eq_some found
  obtain ⟨otherName, otherNamed⟩ := uniform.named other inGrids
  have sameText := List.find?_some found
  rw [otherNamed] at sameText
  have same : other.name = g.name := by
    rw [otherNamed, named]
    exact congrArg Datum.text (of_decide_eq_true sameText)
  rw [found, List.inj_on_of_nodup_map uniform.distinct inGrids member same]

theorem respond_gets (trusting : s.settings.trustedHosts = .null) {path : Text} (gets : r.Gets path) :
    s.respond r = .ok (s.reply r) := by
  rw [respond, ServiceSettings.isTrusted, trusting, gets.1]
  rfl

theorem reply_gets {path : Text} (gets : r.Gets path) {route : Route}
    (found : Route.ofPath path = some route) : s.reply r = s.answer r route := by
  have verb : r.verb = "GET".toList := by
    rw [Request.verb, gets.1]
    decide
  rw [reply, gets.2, found]
  simp [allows, verb]

theorem answer_grid (uniform : s.Uniform) (member : g ∈ s.grids) (named : g.name = .text name) :
    s.answer r (.grid name) = described [g] g.describe.asDatum := by
  rw [answer, withGrid, uniform.find_grid member named]

theorem answer_rows (uniform : s.Uniform) (member : g ∈ s.grids) (named : g.name = .text name) :
    s.answer r (.rows name) = rowsReply (s.search g r) := by
  rw [answer, withGrid, uniform.find_grid member named]

@[simp] theorem status_refusal (r : Request) (code : Nat) (name : Text) (description : Datum) :
    (refusal r code name description).status = code := rfl

@[simp] theorem status_failure (status : Nat) (message : Text) : (failure status message).status = status :=
  rfl

theorem fields_of_success {fields others : List (Text × Datum)} (same : success fields = success others) :
    fields = others := by
  simpa [success] using same

theorem ne_success {reply : Reply} {fields : List (Text × Datum)} (other : reply.status ≠ 200) :
    reply ≠ success fields := by
  rintro rfl
  exact other rfl

/-- Of all answers only the description of a grid has a record for its data. -/
theorem answer_record {route : Route} {fields : List (Text × Datum)}
    (answered : s.answer r route = success [("data".toList, .record fields)]) :
    ∃ n, route = .grid n := by
  cases route with
  | grid n => exact ⟨n, rfl⟩
  | grids =>
    rw [answer, described] at answered
    split at answered
    · cases fields_of_success answered
    · exact absurd answered (ne_success (by simp [internalFailure]))
  | rows n =>
    rw [answer, withGrid] at answered
    split at answered
    · exact absurd answered (ne_success (by simp [notFound]))
    · unfold rowsReply at answered
      split at answered
      · cases fields_of_success answered
      · exact absurd answered (ne_success (by simp))
  | health =>
    rw [answer] at answered
    split at answered
    · cases fields_of_success answered
    · exact absurd answered (ne_success (by simp [internalFailure]))
  | asset => exact absurd answered (ne_success (by simp [answer, noSuchPage, notFound]))

theorem route_of_record {path : Text} (gets : r.Gets path) {fields : List (Text × Datum)}
    (replied : s.reply r = success [("data".toList, .record fields)]) :
    ∃ n, Route.ofPath path = some (.grid n) := by
  cases found : Route.ofPath path with
  | some route =>
    rw [reply_gets gets found] at replied
    obtain ⟨n, rfl⟩ := answer_record replied
    exact ⟨n, rfl⟩
  | none =>
    refine absurd replied (ne_success ?_)
    rw [reply, gets.2, found]
    dsimp only
    split
    · split
      · unfold redirect
        split <;> simp
      · simp [wrongMethod]
    · simp [noSuchPage, notFound]

end Replies

section Search
variable {s : Service} {g : Grid}

theorem search_congr (uniform : s.Uniform) (g : Grid) {r₁ r₂ : Request}
    (agree : r₁.param? s.key.text = r₂.param? s.key.text) : s.search g r₁ = s.search g r₂ := by
  have same : s.key.read r₁.arguments = s.key.read r₂.arguments :=
    s.key.read_congr (by rw [Request.find?_arguments, Request.find?_arguments, agree])
  rw [search, search, uniform.requestKey, Option.getD_some]
  rw [g.apply_congr false _ (by simpa using same)]

theorem search_asked (uniform : s.Uniform) (g : Grid) {r : Request} {raw : Text} (some : raw ≠ [])
    (asked : r.param? s.key.text = .some raw) :
    s.search g r = s.backend.answer (g.searchFor (Query.start g.table (.some s.backend.dialect)) raw) := by
  have reads : s.key.read r.arguments = .ok (.some raw) := by
    rw [SearchKey.read_arguments, asked, Option.filter_some, if_pos (by simpa using some)]
  rw [search, uniform.requestKey, Option.getD_some, Grid.apply_asked reads]

theorem search_unasked (uniform : s.Uniform) (g : Grid) {r : Request}
    (unasked : r.param? s.key.text = none ∨ r.param? s.key.text = some []) :
    s.search g r = s.backend.answer ⟨Query.start g.table (some s.backend.dialect), .ok .null⟩ := by
  have nothing : s.key.read r.arguments = .ok none := by
    rw [SearchKey.read_arguments]
    rcases unasked with missing | empty
    · rw [missing]
      rfl
    · rw [empty]
      rfl
  rw [search, uniform.requestKey, Option.getD_some, Grid.apply_unasked nothing]

theorem answer_sqlite {db : Database} {table : Table} {rows : List Row}
    (stored : db.rowsOf table.name = .ok rows) (dialect : Option Text) :
    (Backend.sqlite db).answer ⟨Query.start table dialect, .ok .null⟩ = .ok rows := by
  change (db.rowsOf table.name >>= fun rows => (Query.start table dialect).fetch rows) = .ok rows
  rw [stored]
  exact Query.fetch_start table dialect rows

end Search

theorem description_key (g : Grid) :
    ∃ fields, g.describe.asDatum = .record fields ∧
      Assoc.find? fields "search_key".toList = some (.text g.key.text) :=
  ⟨_, rfl, rfl⟩

/-- Only an existing grid has a description, and the key told in it is the one that the grid has. -/
theorem told_key {s : Service} {g : Grid} {name : Text} {r : Request} (uniform : s.Uniform) (member : g ∈ s.grids)
    (named : g.name = .text name) (gets : r.Gets (Route.gridPath name)) {fields : List (Text × Datum)}
    (reported : s.reply r = success [("data".toList, .record fields)]) {key : Text}
    (told : Assoc.find? fields "search_key".toList = some (.text key)) :
    name ≠ [] ∧ '/' ∉ name ∧ key = g.key.text := by
  obtain ⟨n, found⟩ := route_of_record gets reported
  obtain ⟨some, noSlash, path⟩ := Route.ofPath_grid.mp found
  obtain rfl : name = n := List.append_cancel_left path
  refine ⟨some, noSlash, ?_⟩
  obtain ⟨fields', description, told'⟩ := description_key g
  rw [reply_gets gets found, answer_grid uniform member named, described, description] at reported
  split at reported
  · obtain ⟨⟩ := fields_of_success reported
    rw [told] at told'
    simpa using told'
  · simp [success, internalFailure, failure] at reported

/-- The service tells for a grid the key that it searches it by. A request for its rows is searched by the text
    for that key, over the dialect and the data of the database; nothing else in the request matters to the
    reply, and without a text for that key the query is answered without filters, which gives all rows. -/
theorem advertised_key {env : Environment} {config : FileContent} {grids : List Grid} {backend : Backend}
    {s : Service} (made : make env config grids backend = .ok s)
    (trusting : (Configuration.ofFile config).find? "TRUSTED_HOSTS".toList = none) :
    ∀ given ∈ grids, ∃ name, given.name = .text name ∧
      (name ≠ [] → '/' ∉ name → given.position.isData = true →
        ∀ r, r.Gets (Route.gridPath name) → ∃ fields,
          s.respond r = .ok (success [("data".toList, .record fields)]) ∧
            Assoc.find? fields "search_key".toList = some (.text s.key.text)) ∧
      ∀ r fields key, r.Gets (Route.gridPath name) →
        s.respond r = .ok (success [("data".toList, .record fields)]) →
        Assoc.find? fields "search_key".toList = some (.text key) →
          let query := Query.start given.table (some backend.dialect)
          (∀ r₁ r₂, r₁.Gets (Route.rowsPath name) → r₂.Gets (Route.rowsPath name) →
            r₁.param? key = r₂.param? key → s.respond r₁ = s.respond r₂) ∧
          (∀ r raw, r.Gets (Route.rowsPath name) → raw ≠ [] → r.param? key = some raw →
            s.respond r = .ok (rowsReply (backend.answer (given.searchFor query raw)))) ∧
          ∀ r, r.Gets (Route.rowsPath name) → (r.param? key = none ∨ r.param? key = some []) →
            s.respond r = .ok (rowsReply (backend.answer ⟨query, .ok .null⟩)) ∧
              ∀ db rows, backend = .sqlite db → db.rowsOf given.table.name = .ok rows →
                s.respond r = .ok (success [("data".toList, .list (rows.map rowDatum))]) := by
  obtain ⟨uniform, kept, stored, settings⟩ := make_ok made
  have noHosts : s.settings.trustedHosts = .null := by
    rw [settings, ServiceSettings.ofFields, trusting]
    rfl
  intro given inGrids
  have member : { given with key := s.key } ∈ s.grids := by
    rw [kept]
    exact List.mem_map.mpr ⟨given, inGrids, rfl⟩
  obtain ⟨name, named⟩ := uniform.named _ member
  refine ⟨name, named, ?_, ?_⟩
  · intro some noSlash isData r gets
    obtain ⟨fields, description, told⟩ := description_key { given with key := s.key }
    refine ⟨fields, ?_, told⟩
    rw [respond_gets noHosts gets, reply_gets gets (Route.ofPath_grid.mpr ⟨some, noSlash, rfl⟩),
      answer_grid uniform member named, described, if_pos (by simpa using isData), description]
  · intro r fields key gets reported told query
    rw [respond_gets noHosts gets, Except.ok.injEq] at reported
    obtain ⟨some, noSlash, same⟩ := told_key uniform member named gets reported told
    have rows (r : Request) (gets : r.Gets (Route.rowsPath name)) :
        s.respond r = .ok (rowsReply (s.search { given with key := s.key } r)) := by
      rw [respond_gets noHosts gets, reply_gets gets (Route.ofPath_rows some noSlash),
        answer_rows uniform member named]
    subst same
    refine ⟨?_, ?_, ?_⟩
    · intro r₁ r₂ gets₁ gets₂ agree
      rw [rows r₁ gets₁, rows r₂ gets₂, search_congr uniform _ agree]
    · intro r raw gets some asked
      rw [rows r gets, search_asked uniform _ some asked, stored]
      rfl
    · intro r gets unasked
      have reply : s.respond r = .ok (rowsReply (backend.answer ⟨query, .ok .null⟩)) := by
        rw [rows r gets, search_unasked uniform _ unasked, stored]
      refine ⟨reply, ?_⟩
      rintro db rows rfl held
      rw [reply, answer_sqlite held]
      rfl

section Cities

def cities : Table := ⟨"cities".toList, [⟨"name".toList, .string⟩]⟩

def cityRows : List Row := [[("name".toList, .text "Bern".toList)], [("name".toList, .text "Rome".toList)]]

def cityGrid : Grid where
  name := .text "cities".toList
  table := cities
  columns := [⟨"name".toList, "Name".toList⟩]
  search := some .tokens
  position := .plain .null
  key := ⟨"old".toList⟩

def cityEnvironment : Environment := [("QUICKSEARCH_SEARCH_KEY".toList, " q ".toList)]

def cityBackend : Backend := .sqlite ⟨[⟨cities, cityRows⟩]⟩

def cityService : Service where
  settings := .ofFields []
  grids := [{ cityGrid with key := ⟨['q']⟩ }]
  key := ⟨['q']⟩
  requestKey := some ⟨['q']⟩
  backend := cityBackend

theorem advertised_key_cities :
    make cityEnvironment none [cityGrid] cityBackend = .ok cityService ∧
      (∀ r : Request, r.Gets (Route.rowsPath "cities".toList) → r.param? ['q'] = none →
        cityService.respond r = .ok (success [("data".toList, .list (cityRows.map rowDatum))])) ∧
      ∀ r : Request, r.Gets (Route.rowsPath "cities".toList) → r.param? ['q'] = some "name:Bern".toList →
        cityService.respond r = .ok (success [("data".toList, .list ((cityRows.take 1).map rowDatum))]) := by
  have made : make cityEnvironment none [cityGrid] cityBackend = .ok cityService := rfl
  obtain ⟨name, named, reports, key⟩ := advertised_key made rfl cityGrid (List.mem_singleton_self _)
  cases named
  let page : Request := ⟨"GET".toList, [], Route.gridPath "cities".toList, []⟩
  obtain ⟨fields, reported, told⟩ := reports (by decide) (by decide) rfl page ⟨rfl, rfl⟩
  obtain ⟨_, asked, unasked⟩ := key page fields _ ⟨rfl, rfl⟩ reported told
  refine ⟨made, ?_, ?_⟩
  · intro r gets missing
    exact (unasked r gets (Or.inl missing)).2 _ cityRows rfl rfl
  · intro r gets given
    have bern : cityBackend.answer (cityGrid.searchFor (Query.start cities (some cityBackend.dialect))
        "name:Bern".toList) = .ok (cityRows.take 1) := by decide +kernel
    rw [asked r _ gets (by decide) given]
    exact congrArg (fun found => Except.ok (rowsReply found)) bern

end Cities

end Service
end SearchBox
