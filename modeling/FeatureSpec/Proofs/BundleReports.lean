import FeatureSpec.Proofs.BundleFiles
import FeatureSpec.Proofs.CannedGateway
import FeatureSpec.Proofs.LegibleReplies
import FeatureSpec.Proofs.LoadCourse
/-!
What `load` and `query` report of a bundle: what it has for a query, as one JSON text, and the
counts of the definition that its sections make; or the first thing that it lacks.
-/
namespace FeatureSpec

/-! ### Loads from a bundle -/

/-- What a slot of a bundle holds; an empty one is a failure. -/
def Bundle.held {α : Type} (slot : Option α) (kind ref : String) : Except Failure α :=
  match slot with
  | some a => .ok a
  | none => .error (Ask.absence kind ref)

/-- What a bundle answers to the requests of a load. -/
def Bundle.served (b : Bundle) (feature : String) : Except Failure Replies := do
  let backend ← held b.backend "backend info" feature
  let frontend ← held b.frontend "frontend elements" feature
  let mappings ← held b.mappings "mappings" feature
  return ⟨backend, .proper frontend, .proper mappings⟩

namespace Gateway

variable {α : Type} {w : World} {past : Trace}

theorem entry_eq (slot : Option α) (kind ref : String) (event : Failure → ErrorEvent) :
    ∃ t, entry slot kind ref event w past = ⟨t, Bundle.held slot kind ref⟩ := by
  cases slot with
  | some a => exact ⟨_, rfl⟩
  | none =>
    obtain ⟨t, refused, -⟩ := @entry_of_none α w past kind ref event
    exact ⟨t, refused⟩

theorem proper_entry_eq (slot : Option α) (kind ref : String) (event : Failure → ErrorEvent) :
    ∃ t, (Answer.proper <$> entry slot kind ref event : Run (Answer α)) w past =
      ⟨t, (Bundle.held slot kind ref).map .proper⟩ := by
  obtain ⟨t, ran⟩ := @entry_eq α w past slot kind ref event
  exact ⟨t, by rw [Run.map_apply, ran]⟩

end Gateway

theorem course_of_canned (b : Bundle) (feature : String) (w : World) (past : Trace) :
    (((Gateway.canned b).loadSteps feature).course w past).outcome = b.served feature := by
  have backend (past : Trace) :
      ∃ t, ((Gateway.canned b).loadSteps feature).backend w past =
        ⟨t, Bundle.held b.backend "backend info" feature⟩ :=
    Gateway.entry_eq _ _ _ _
  have frontend (past : Trace) :
      ∃ t, ((Gateway.canned b).loadSteps feature).frontend w past =
        ⟨t, (Bundle.held b.frontend "frontend elements" feature).map .proper⟩ :=
    Gateway.proper_entry_eq _ _ _ _
  have mappings (past : Trace) :
      ∃ t, ((Gateway.canned b).loadSteps feature).mappings w past =
        ⟨t, (Bundle.held b.mappings "mappings" feature).map .proper⟩ :=
    Gateway.proper_entry_eq _ _ _ _
  obtain ⟨bt, backend⟩ := backend past
  unfold LoadSteps.course Bundle.served
  dsimp only
  rw [backend]
  rcases Bundle.held b.backend "backend info" feature with f | first
  · rfl
  obtain ⟨ft, frontend⟩ := frontend (past ++ bt)
  dsimp only
  rw [frontend]
  rcases Bundle.held b.frontend "frontend elements" feature with f | second
  · rfl
  obtain ⟨mt, mappings⟩ := mappings (past ++ bt ++ ft)
  dsimp only [Except.map]
  rw [mappings]
  rcases Bundle.held b.mappings "mappings" feature with f | third <;> rfl

namespace Command

open Act

/-! ### Queries -/

/-- What `query` reports of a bundle, whatever the feature, the parameters and the rest of the
bundle are: misuse, the reply as one JSON text and a line break, or nothing on the output. -/
structure ReportsQuery (b : Bundle) (id : String) (texts : List String) (o : Outcome) : Prop where
  misused : (∃ text ∈ texts, Unparted text) →
    o.code = 2 ∧ o.crash = none ∧ o.terminal.out = ""
  printed : (∀ text ∈ texts, ¬Unparted text) → ∀ r, b.queries.get? id = some r →
    (∀ v ∈ r.given, v.depth ≤ FeatureSpec.depthLimit) → o.code = 0 ∧ o.crash = none ∧
      o.terminal.out = Json.write ⟨true, some 2⟩ (QueryReply.codec.encode r) ++ "\n" ∧
      Json.read (Json.write ⟨true, some 2⟩ (QueryReply.codec.encode r)) =
        .ok (QueryReply.codec.encode r)
  unwritten : (∀ text ∈ texts, ¬Unparted text) → ∀ r, b.queries.get? id = some r →
    (∃ v ∈ r.given, FeatureSpec.depthLimit < v.depth) →
      o.code = 1 ∧ o.crash = some (.value .tooDeep) ∧ o.terminal.out = ""
  missing : (∀ text ∈ texts, ¬Unparted text) → b.queries.get? id = none →
    o.code = 1 ∧ o.crash = none ∧ o.terminal.out = ""

section

variable {s : Surroundings} {t t' : Terminal} {origin : Origin} {path : Path} {b : Bundle}
  {feature id : String} {texts : List String} {handled : Failure → Bool}

theorem course_served (ready : equipped s t origin = .ok t') (given : origin.bundle = some path)
    (returned : Bundle.ofFile t'.files path = .ok b) :
    (sessionOn handled feature origin).course s t =
      (.ok { feature, gateway := .canned b }, t') := by
  rw [course_sessionOn ready given, returned]
  rfl

theorem course_query_of_refused (refused : ∃ text ∈ texts, Unparted text) :
    (runQuery feature id texts origin).course s t = (.error (.exit 2), t) := by
  unfold runQuery
  rw [(params_refused_iff texts).mpr refused]
  rfl

/-- Once the bundle is read, the query is answered from it. -/
theorem course_query (feature : String) (ready : equipped s t origin = .ok t')
    (given : origin.bundle = some path) (returned : Bundle.ofFile t'.files path = .ok b)
    (parted : ∀ text ∈ texts, ¬Unparted text) :
    ∃ trace, (runQuery feature id texts origin).course s t =
      (expect (fun f => f.isOwn || f.isLookup) (Bundle.held (b.queries.get? id) "query" id) >>=
        fun r => expect (fun f => f.isOwn || f.isLookup) r.write >>= fun w =>
          say (Json.write ⟨true, some 2⟩ w)).course s (t'.witnessed s trace) := by
  rcases read : texts.mapM paramOf? with _ | params
  · obtain ⟨text, member, wrong⟩ := (params_refused_iff texts).mp read
    exact absurd wrong (parted text member)
  obtain ⟨trace, ran⟩ := @Gateway.proper_entry_eq _ s.world t'.trace (b.queries.get? id) "query" id
    (Operation.query feature id (Entries.ofList params)).errorEvent
  refine ⟨trace, ?_⟩
  unfold runQuery
  rw [read]
  dsimp only
  rw [course_bind_ok (course_served ready given returned)]
  have performed := course_performed (s := s) (t := t') (x := ({
    feature, gateway := .canned b } : Session).executeQuery id (Entries.ofList params)) ran
  rw [course_bind_ok performed]
  rcases Bundle.held (b.queries.get? id) "query" id with f | r
  · dsimp only [Except.map]
    rw [course_bind_stopped (course_expect_error _ f),
      course_bind_stopped (course_expect_error _ f)]
  · rfl

/-- The replies of a bundle that comes of a file can be printed and read again. -/
theorem read_write_of_returned {files : FileTree} (returned : Bundle.ofFile files path = .ok b)
    {r : QueryReply} (found : b.queries.get? id = some r) (style : Json.Style) :
    Json.read (Json.write style (QueryReply.codec.encode r)) = .ok (QueryReply.codec.encode r) := by
  obtain ⟨os, text, v, held⟩ := Bundle.ofFile_eq_ok_iff.mp returned
  have legible : v.Legible := (Json.sound_readChars text.toList).1 v held.parsed
  exact Json.read_write style (bundle_reads v b legible held.shaped _ (Entries.mem_of_get? found))

theorem reportsQuery {files : FileTree} {args : List String} {verbose : Bool}
    {directory : Option Path} (asks : Asks args verbose directory (.query feature id texts origin))
    (started : begun verbose directory files = .ok t) (ready : equipped s t origin = .ok t')
    (given : origin.bundle = some path) (returned : Bundle.ofFile t'.files path = .ok b) :
    ReportsQuery b id texts (run s files args) := by
  obtain ⟨empty, -⟩ := terminal_of_begun started
  have empty' : t'.out = "" := (out_of_equipped ready).trans empty
  have ran : run s files args = .ofCourse ((runQuery feature id texts origin).course s t) :=
    run_of_asks asks started
  have reply {r : QueryReply} (found : b.queries.get? id = some r) :
      Bundle.held (b.queries.get? id) "query" id = .ok r := by
    rw [found]
    rfl
  refine ⟨fun refused => ?misused, fun parted r found shallow => ?printed,
    fun parted r found deep => ?unwritten, fun parted absent => ?missing⟩
  case misused =>
    rw [ran, course_query_of_refused refused]
    exact ⟨rfl, rfl, empty⟩
  case printed =>
    obtain ⟨trace, course⟩ := course_query feature ready given returned parted
    have written : r.write = .ok (QueryReply.codec.encode r) :=
      writtenWith_of_shallow _ shallow
    rw [ran, course, reply found, course_bind_ok (course_expect_ok _ r), written,
      course_bind_ok (course_expect_ok _ _), course_say]
    refine ⟨rfl, rfl, ?_, read_write_of_returned returned found _⟩
    show t'.out ++ Text.withoutEscapes (Json.write _ _) ++ "\n" = _
    rw [empty', Json.withoutEscapes_write, String.empty_append]
  case unwritten =>
    obtain ⟨trace, course⟩ := course_query feature ready given returned parted
    obtain ⟨v, member, deep⟩ := deep
    have unwritten : r.write = .error (.value .tooDeep) := writtenWith_of_deep _ member deep
    rw [ran, course, reply found, course_bind_ok (course_expect_ok _ r), unwritten,
      course_bind_stopped (course_expect_error _ _)]
    exact ⟨rfl, rfl, empty'⟩
  case missing =>
    obtain ⟨trace, course⟩ := course_query feature ready given returned parted
    rw [ran, course, absent, Bundle.held, course_bind_stopped (course_expect_error _ _)]
    exact ⟨rfl, rfl, empty'⟩

end

/-! ### Loads -/

def loadedLines (feature : String) (d : Feature) : List String :=
  Text.withoutEscapes s!"{feature}: loaded (revision 1)" ::
    d.stats.entries.map fun (key, count) => s!"  {key}: {count}"

structure ReportsLoaded (feature : String) (d : Feature) (o : Outcome) : Prop where
  code : o.code = 0
  crash : o.crash = none
  out : o.terminal.out = String.join ((loadedLines feature d).map (· ++ "\n"))

/-- What `load` reports where a slot is empty: a last line that names it. -/
structure ReportsAbsence (feature kind : String) (o : Outcome) : Prop where
  code : o.code = 1
  crash : o.crash = none
  out : o.terminal.out = ""
  err : ∃ before, o.terminal.err = before ++ Text.withoutEscapes
    s!"{feature}: failed (Mock bundle has no {kind} entry for '{feature}')" ++ "\n"

/-- What `load` reports of a bundle: the definition that its sections make, or the first one of them
that is not there. -/
def ReportsLoad (b : Bundle) (feature : String) (o : Outcome) : Prop :=
  match b.backend, b.frontend, b.mappings with
  | some backend, some frontend, some mappings =>
    ReportsLoaded feature (StoreEntry.compose feature backend frontend mappings).definition o
  | none, _, _ => ReportsAbsence feature "backend info" o
  | some _, none, _ => ReportsAbsence feature "frontend elements" o
  | some _, some _, none => ReportsAbsence feature "mappings" o

section

variable {s : Surroundings} {t t' : Terminal} {origin : Origin} {path : Path} {b : Bundle}
  {feature : String}

/-- Lines about items are written one after another. -/
theorem course_lines {α : Type} (line : α → String) (items : List α) (t : Terminal) :
    ∃ t', (forIn items PUnit.unit fun a _ => do
      say (line a)
      pure (ForInStep.yield PUnit.unit) : Act PUnit).course s t = (.ok PUnit.unit, t') ∧
      t'.out = t.out ++ String.join (items.map fun a => Text.withoutEscapes (line a) ++ "\n") := by
  induction items generalizing t with
  | nil => exact ⟨t, rfl, by simp⟩
  | cons a rest ih =>
    have said : (do
        say (line a)
        pure (ForInStep.yield PUnit.unit) : Act (ForInStep PUnit)).course s t =
          (.ok (.yield PUnit.unit), t.said (line a)) := rfl
    obtain ⟨t', course, out⟩ := ih (t.said (line a))
    refine ⟨t', ?_, ?_⟩
    · rw [List.forIn_cons, course_bind_ok said]
      exact course
    · rw [out, Terminal.said]
      simp [String.append_assoc]

theorem withoutEscapes_count (d : Feature) : ∀ entry ∈ d.stats.entries,
    Text.withoutEscapes s!"  {entry.1}: {entry.2}" = s!"  {entry.1}: {entry.2}" := by
  intro entry member
  have name : '\x1b' ∉ entry.1.toList := by
    simp only [Stats.entries, List.mem_cons, List.not_mem_nil, or_false] at member
    rcases member with rfl | rfl | rfl | rfl | rfl | rfl <;> dsimp only <;> decide
  have count : '\x1b' ∉ (toString entry.2).toList := by
    intro escape
    have digit := Nat.isDigit_of_mem_toDigits (by decide) (by decide)
      (Nat.toList_repr ▸ escape : '\x1b' ∈ Nat.toDigits 10 entry.2)
    cases digit
  refine Text.withoutEscapes_eq ?_
  simp only [String.toList_append, List.mem_append, not_or]
  exact ⟨⟨⟨by decide, name⟩, by decide⟩, count⟩

theorem loadedLine_eq {after : Session} (loaded : after.state = .loaded)
    (first : after.revision = 1) :
    s!"{feature}: {after.state.name} (revision {after.revision})" =
      s!"{feature}: loaded (revision 1)" := by
  have ending : ": loaded (revision 1)" =
      ": " ++ "loaded" ++ " (revision " ++ toString 1 ++ ")" := by
    decide
  rw [loaded, first, ending]
  show feature ++ ": " ++ "loaded" ++ " (revision " ++ toString 1 ++ ")" =
    feature ++ (": " ++ "loaded" ++ " (revision " ++ toString 1 ++ ")")
  simp only [String.append_assoc]

theorem absenceLine_eq {after : Session} {kind : String} (failed : after.state = .failed) :
    s!"{feature}: {after.state.name} ({(Ask.absence kind feature).message})" =
      s!"{feature}: failed (Mock bundle has no {kind} entry for '{feature}')" := by
  have opening : ": failed (Mock bundle has no " =
      ": " ++ "failed" ++ " (" ++ "Mock bundle has no " := by
    decide
  have closing : "')" = "'" ++ ")" := by decide
  rw [failed, opening, closing]
  show feature ++ ": " ++ "failed" ++ " (" ++
      ("Mock bundle has no " ++ kind ++ " entry for '" ++ feature ++ "'") ++ ")" =
    feature ++ (": " ++ "failed" ++ " (" ++ "Mock bundle has no ") ++ kind ++
      " entry for '" ++ feature ++ ("'" ++ ")")
  simp only [String.append_assoc]

theorem course_load_of_replies {backend : Backend} {frontend : FrontendReply}
    {mappings : MappingsReply} (ready : equipped s t origin = .ok t')
    (given : origin.bundle = some path) (returned : Bundle.ofFile t'.files path = .ok b)
    (served : b.served feature = .ok ⟨backend, .proper frontend, .proper mappings⟩) :
    let d := (StoreEntry.compose feature backend frontend mappings).definition
    ∃ t'', (loadFeature feature origin).course s t = (.ok (), t'') ∧
      t''.out = t'.out ++ String.join ((loadedLines feature d).map (· ++ "\n")) := by
  intro d
  let before : Session := { feature, gateway := .canned b }
  let after := before.loadedWith (StoreEntry.compose feature backend frontend mappings)
  obtain ⟨trace, ran⟩ : ∃ trace, before.load s.world t'.trace = ⟨trace, .ok after⟩ :=
    Session.loadBy_of_replies rfl ((course_of_canned b feature _ _).trans served)
  have defined : after.definition? = some d := by
    simp [after, Session.definition?, Session.loadedWith, Store.get?, Entries.get?_put, before, d]
  have performed := course_performed (s := s) (t := t') (x := before.load) ran
  let heading := (t'.witnessed s trace).said s!"{feature}: loaded (revision 1)"
  obtain ⟨t'', course, out⟩ := course_lines (s := s)
    (fun entry : String × Nat => s!"  {entry.1}: {entry.2}") d.stats.entries heading
  refine ⟨t'', ?_, ?_⟩
  · unfold loadFeature
    rw [course_bind_ok (course_served ready given returned), course_bind_ok performed,
      course_bind_ok (course_expect_ok _ after)]
    have fine : after.error = none := rfl
    rw [fine]
    dsimp only
    rw [loadedLine_eq (rfl : after.state = .loaded) (rfl : after.revision = 1),
      course_bind_ok (course_say _), defined]
    dsimp only
    rw [course_bind_ok course]
    rfl
  -- No escape sequences are dropped from the lines about counts; the feature's name may hold some.
  · have lines : d.stats.entries.map (fun entry => Text.withoutEscapes s!"  {entry.1}: {entry.2}" ++
        "\n") = d.stats.entries.map fun entry => s!"  {entry.1}: {entry.2}" ++ "\n" :=
      List.map_congr_left fun entry member => by rw [withoutEscapes_count d entry member]
    rw [out, lines]
    show t'.out ++ Text.withoutEscapes s!"{feature}: loaded (revision 1)" ++ "\n" ++ _ = _
    simp [loadedLines, String.append_assoc, Function.comp_def]

theorem course_load_of_absence {kind : String} (ready : equipped s t origin = .ok t')
    (given : origin.bundle = some path) (returned : Bundle.ofFile t'.files path = .ok b)
    (absent : b.served feature = .error (Ask.absence kind feature)) :
    ∃ trace, (loadFeature feature origin).course s t =
      (.error (.exit 1), (t'.witnessed s trace).complained
        s!"{feature}: failed (Mock bundle has no {kind} entry for '{feature}')") := by
  let before : Session := { feature, gateway := .canned b }
  let after := before.failedBy (Ask.absence kind feature)
  obtain ⟨trace, ran⟩ : ∃ trace, before.load s.world t'.trace = ⟨trace, .ok after⟩ :=
    Session.loadBy_of_failure ((course_of_canned b feature _ _).trans absent)
  refine ⟨trace, ?_⟩
  have performed := course_performed (s := s) (t := t') (x := before.load) ran
  unfold loadFeature
  rw [course_bind_ok (course_served ready given returned), course_bind_ok performed,
    course_bind_ok (course_expect_ok _ after)]
  have failed : after.error = some (Ask.absence kind feature) := rfl
  rw [failed]
  dsimp only
  rw [absenceLine_eq (rfl : after.state = .failed)]
  rfl

theorem reportsLoad {files : FileTree} {args : List String} {verbose : Bool}
    {directory : Option Path} (asks : Asks args verbose directory (.load feature origin))
    (started : begun verbose directory files = .ok t) (ready : equipped s t origin = .ok t')
    (given : origin.bundle = some path) (returned : Bundle.ofFile t'.files path = .ok b) :
    ReportsLoad b feature (run s files args) := by
  obtain ⟨empty, -⟩ := terminal_of_begun started
  have empty' : t'.out = "" := (out_of_equipped ready).trans empty
  have ran : run s files args = .ofCourse ((loadFeature feature origin).course s t) :=
    run_of_asks asks started
  have absence {kind : String} (absent : b.served feature = .error (Ask.absence kind feature)) :
      ReportsAbsence feature kind (run s files args) := by
    obtain ⟨trace, course⟩ := course_load_of_absence ready given returned absent
    rw [ran, course]
    exact ⟨rfl, rfl, empty', _, rfl⟩
  unfold ReportsLoad
  split
  case h_1 backend frontend mappings first second third =>
    have served : b.served feature = .ok ⟨backend, .proper frontend, .proper mappings⟩ := by
      rw [Bundle.served, first, second, third]
      rfl
    obtain ⟨t'', course, out⟩ := course_load_of_replies ready given returned served
    rw [ran, course]
    exact ⟨rfl, rfl, by rw [Outcome.ofCourse, out, empty', String.empty_append]⟩
  case h_2 first =>
    refine absence ?_
    rw [Bundle.served, first]
    rfl
  case h_3 first second =>
    refine absence ?_
    rw [Bundle.served, first, second]
    rfl
  case h_4 first second third =>
    refine absence ?_
    rw [Bundle.served, first, second, third]
    rfl

end

/-! ### The reports -/

/-- A bundle is still there when it is read, unless the program was given a log directory. -/
theorem kept_of_equipped {s : Surroundings} {files : FileTree} {verbose : Bool} {t t' : Terminal}
    {origin : Origin} {path : Path} {b : Bundle} (started : begun verbose none files = .ok t)
    (ready : equipped s t origin = .ok t') (returned : Bundle.ofFile files path = .ok b) :
    Bundle.ofFile t'.files path = .ok b := by
  obtain ⟨same, unfiled⟩ : t.files = files ∧ t.setup.file = none := by
    cases started
    exact ⟨rfl, rfl⟩
  exact Bundle.ofFile_of_grown (same ▸ grown_of_equipped ready unfiled) returned

/-- What `query` and `load` report is what the bundle has, however they are asked and whatever the
configuration says, if it can be loaded and its log directory, if it has one, can be set up. What
nests too deep in a row to be written leads to a failure. A bundle in the files is the bundle that
is read unless logs may be written over it, and everything but options can be asked for. -/
theorem bundle_reports (s : Surroundings) (files : FileTree) (verbose : Bool)
    (directory : Option Path) (t t' : Terminal) (origin : Origin) (path : Path)
    (started : begun verbose directory files = .ok t) (ready : equipped s t origin = .ok t')
    (given : origin.bundle = some path) :
    (directory = none → ∀ b, Bundle.ofFile files path = .ok b →
      Bundle.ofFile t'.files path = .ok b) ∧
    (∀ b, Bundle.ofFile t'.files path = .ok b →
      (∀ args feature id texts, Asks args verbose directory (.query feature id texts origin) →
        ReportsQuery b id texts (run s files args)) ∧
      ∀ args feature, Asks args verbose directory (.load feature origin) →
        ReportsLoad b feature (run s files args)) ∧
    ∀ feature : String, feature.toList.head? ≠ some '-' →
      ∀ bundle : String, '\x00' ∉ bundle.toList →
      Asks ["load", feature, "--mock", bundle] false none
        (.load feature { bundle := some (Path.ofString bundle) }) ∧
      ∀ (id : String) (texts : List String), id.toList.head? ≠ some '-' →
        Asks ("query" :: feature :: id :: paramWords texts bundle) false none
          (.query feature id texts { bundle := some (Path.ofString bundle) }) := by
  refine ⟨?kept, fun b returned => ⟨?query, ?load⟩, fun feature dashless bundle clean => ⟨?_, ?_⟩⟩
  case kept =>
    rintro rfl b returned
    exact kept_of_equipped started ready returned
  case query => exact fun args feature id texts asks =>
    reportsQuery asks started ready given returned
  case load => exact fun args feature asks => reportsLoad asks started ready given returned
  · exact asks_load dashless clean
  · exact fun id texts dashless' => asks_query dashless dashless' texts clean

def rowBundle (v : Json) : Bundle where
  queries := [("q", { data := [[("n", v)]] })]

def rowJson (v : Json) : Json :=
  .object [("queries", .object [("q", .object [("data", .array [.object [("n", v)]])])])]

def rowTree (v : Json) : FileTree :=
  bundleTree (Octets.ofString (Json.write ⟨true, none⟩ (rowJson v)))

theorem ofFile_rowTree {v : Json} (legible : v.Legible) :
    Bundle.ofFile (rowTree v) (Path.ofString "b.json") = .ok (rowBundle v) := by
  have path : Path.ofString "b.json" = { parts := ["b.json"] } := by
    with_unfolding_all rfl
  have parsed : Json.read (Json.write ⟨true, none⟩ (rowJson v)) = .ok (rowJson v) := by
    refine Json.read_write _ ?_
    simp [rowJson, Json.Legible, Json.LegibleItems, Json.LegibleMembers, legible]
  have shaped : Bundle.codec.decode (rowJson v) = .ok (rowBundle v) := rfl
  rw [path]
  exact Bundle.ofFile_of_held ⟨read_bundleTree _, Octets.utf8?_ofString _, parsed, shaped⟩

theorem one_legible : (Json.int 1).Legible := Nat.one_lt_pow (by decide) (by decide)

/-- A row is printed, and a load comes to the first section that is not there. -/
theorem row_reported :
    let o := run alone (rowTree (.int 1)) ["query", "f", "q", "--param", "a=b", "--mock", "b.json"]
    (o.code = 0 ∧ o.terminal.out = Json.write ⟨true, some 2⟩
      (QueryReply.codec.encode { data := [[("n", .int 1)]] }) ++ "\n") ∧
    ReportsAbsence "f" "backend info"
      (run alone (rowTree (.int 1)) ["load", "f", "--mock", "b.json"]) := by
  intro o
  let origin : Origin := { bundle := some (Path.ofString "b.json") }
  have started : begun false none (rowTree (.int 1)) = .ok { files := rowTree (.int 1) } := rfl
  have ready : equipped alone { files := rowTree (.int 1) } origin =
      .ok { files := rowTree (.int 1) } := equipped_bundleTree _
  have returned := ofFile_rowTree one_legible
  obtain ⟨-, reports, asked⟩ := bundle_reports alone (rowTree (.int 1)) false none
    { files := rowTree (.int 1) } { files := rowTree (.int 1) } origin (Path.ofString "b.json")
    started ready rfl
  obtain ⟨load, query⟩ := asked "f" (by decide) "b.json" (by decide)
  obtain ⟨ofQuery, ofLoad⟩ := reports _ returned
  have report := ofQuery _ "f" "q" ["a=b"] (query "q" ["a=b"] (by decide))
  obtain ⟨code, -, out, -⟩ := report.printed (by decide) _ rfl (by decide)
  exact ⟨⟨code, out⟩, ofLoad _ "f" load⟩

theorem nested_legible (n : Nat) : (nested n).Legible := by
  induction n with
  | zero => exact one_legible
  | succ n ih => exact ⟨ih, trivial⟩

/-- A row that nests too deep to be written ends the command, whatever it is. -/
theorem outcome_of_deep_row {v : Json} (legible : v.Legible)
    (deep : FeatureSpec.depthLimit < v.depth) :
    let o := run alone (rowTree v) ["query", "f", "q", "--mock", "b.json"]
    o.code = 1 ∧ o.crash = some (.value .tooDeep) := by
  have started : begun false none (rowTree v) = .ok { files := rowTree v } := rfl
  have asks : Asks ["query", "f", "q", "--mock", "b.json"] false none
      (.query "f" "q" [] { bundle := some (Path.ofString "b.json") }) :=
    asks_query (by decide) (by decide) [] (by decide)
  have report := reportsQuery asks started (equipped_bundleTree _) rfl (ofFile_rowTree legible)
  obtain ⟨code, crash, -⟩ := report.unwritten nofun _ rfl ⟨v, .head _, deep⟩
  exact ⟨code, crash⟩

/-- A query that is in the bundle, and yet the command fails. -/
theorem deep_row_unreported :
    Bundle.ofFile (rowTree (nested 255)) (Path.ofString "b.json") = .ok (rowBundle (nested 255)) ∧
    ((rowBundle (nested 255)).queries.get? "q").isSome ∧
    (run alone (rowTree (nested 255)) ["query", "f", "q", "--mock", "b.json"]).code = 1 := by
  have deep : FeatureSpec.depthLimit < (nested 255).depth := by
    rw [nested_depth]
    decide
  exact ⟨ofFile_rowTree (nested_legible 255), rfl,
    (outcome_of_deep_row (nested_legible 255) deep).1⟩

end Command
end FeatureSpec
