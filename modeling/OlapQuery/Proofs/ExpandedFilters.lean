import OlapQuery.Proofs.MappedExpressions
import OlapQuery.Proofs.VariableTexts
import OlapQuery.Time.ZoneTable

-- Base filters with variables. The variables are expanded in the text of a filter before it is read:
-- the filter is the one that was written, with its texts expanded, if the values of the variables can
-- stand between marks as they are. Other values are read as JSON of their own.

namespace OlapQuery

open Environment
open Json (Scan Token Literal Lexed Reads Textless scanAll readTokens parseAsWritten?)

section Scanning

variable {env : Environment} {f : String → String}

theorem Json.Textless.map {ts : List Token} (textless : Textless ts) : ts.map (Token.mapText f) = ts := by
  refine Eq.trans (List.map_congr_left fun t listed => ?_) (List.map_id ts)
  cases t with
  | text s => exact nomatch (textless _ listed).2
  | _ => rfl

theorem prefix_some {α : Type} (more : List α) {later : List α} {scanned : Option (List α)} :
    scanned.map (more ++ ·) = some (more ++ later) ↔ scanned = some later := by
  cases scanned <;> simp

-- The first pieces are written for the second: they are cut at the same references, and what is
-- written between these reads as what stands there.
inductive Spelled : List Piece → List Piece → Prop
  | last {written content : List Char} (reads : Reads (.text []) written content) :
      Spelled (written.map .char) (content.map .char)
  | reference {written content : List Char} {others later : List Piece} (name : String)
      (reads : Reads (.text []) written content) (spelled : Spelled others later) :
      Spelled (written.map .char ++ .reference name :: others)
        (content.map .char ++ .reference name :: later)

-- No reference to a variable is itself written with escapes.
def Json.Literal.Unescaped (l : Literal) : Prop :=
  ∃ written content, cutFrom .plain l.written = some written ∧
    cutFrom .plain l.content = some content ∧ Spelled written content

theorem chars_text (env : Environment) (cs : List Char) :
    (cs.map Piece.char).flatMap (Piece.text env) = cs := by
  simp [List.flatMap_map,Piece.text]

theorem chars_nameless (cs : List Char) : (cs.map Piece.char).filterMap Piece.name? = [] :=
  List.filterMap_eq_nil_iff.mpr (by simp [Piece.name?])

theorem Spelled.names {written content : List Piece} (spelled : Spelled written content) :
    written.filterMap Piece.name? = content.filterMap Piece.name? := by
  induction spelled with
  | last reads => rw [chars_nameless,chars_nameless]
  | reference name reads spelled ih =>
      rw [List.filterMap_append,List.filterMap_append,chars_nameless,chars_nameless]
      exact congrArg (name :: ·) ih

-- With values that stand for themselves, the expanded pieces are written for the expanded ones.
theorem Spelled.leads {written content : List Piece} (spelled : Spelled written content)
    (plain : PlainValues env (content.filterMap Piece.name?)) (before after : List Char) :
    scanAll (.text before) [] (written.flatMap (Piece.text env) ++ after)
      = scanAll (.text ((content.flatMap (Piece.text env)).reverse ++ before)) [] after := by
  have between {written content : List Char} (reads : Reads (.text []) written content)
      (before after : List Char) : scanAll (.text before) [] (written ++ after)
        = scanAll (.text (content.reverse ++ before)) [] after := by
    have leads := (reads.after before).leads after
    rwa [List.reverse_append,List.reverse_reverse] at leads
  induction spelled generalizing before with
  | last reads =>
      rw [chars_text,chars_text]
      exact between reads before after
  | @reference written content others later name reads spelled ih =>
      rw [List.filterMap_append,chars_nameless] at plain
      obtain ⟨own,plain⟩ := List.forall_mem_cons.mp plain
      have value : ∀ c ∈ Piece.text env (.reference name), Json.Plain c := by
        cases found : env.get? name with
        | none => simp [Piece.text,found]
        | some value => simpa [Piece.text,found] using own value found
      have whole := Json.reads_plain value []
      rw [List.flatMap_append,List.flatMap_cons,chars_text,List.append_assoc,List.append_assoc,
        between reads,between whole,ih plain]
      rw [List.flatMap_append,List.flatMap_cons,chars_text]
      simp

theorem unescaped_dollarless {written content : List Char}
    (reads : Reads (.text []) written content) (dollarless : '$' ∉ content) :
    Json.Literal.Unescaped { written,content } := by
  have bare : '$' ∉ written := by
    intro inside
    have kept := reads.count rfl (.inl rfl)
    rw [List.count_eq_zero.mpr dollarless] at kept
    have counted := List.count_pos_iff.mpr inside
    omega
  exact ⟨_,_,cutFrom_dollarless bare,cutFrom_dollarless dollarless,.last reads⟩

-- Within a text: the expanded characters are read as the expanded content if the values can stand
-- there, and if the references were written without escapes around them, only then.
theorem literal_expanded {l : Literal} (reads : Reads (.text []) l.written l.content)
    (unescaped : l.Unescaped) (defined : Defined env (variablesFrom .plain l.content)) :
    ∃ pieces, cutFrom .plain l.written = some pieces ∧
      Defined env (pieces.filterMap Piece.name?) ∧
      (PlainValues env (variablesFrom .plain l.content) → ∀ after,
        scanAll (.text []) [] (pieces.flatMap (Piece.text env) ++ '"' :: after) =
          (scanAll .between [] after).map
            (.text (env.expanded (String.ofList l.content)) :: ·)) ∧
      ((variablesFrom .plain l.content ≠ [] → l.written = l.content) → ∀ after later,
        scanAll (.text []) [] (pieces.flatMap (Piece.text env) ++ '"' :: after) =
            some (.text (env.expanded (String.ofList l.content)) :: later) →
          PlainValues env (variablesFrom .plain l.content)) := by
  obtain ⟨written,content,cut,cuts,spelled⟩ := unescaped
  have names := variablesFrom_pieces cuts
  have expands : env.expanded (String.ofList l.content) =
      String.ofList (content.flatMap (Piece.text env)) :=
    expanded_ok (expand_pieces (by rwa [String.toList_ofList]) (by
      rwa [variableNames,String.toList_ofList]))
  refine ⟨written,cut,by rwa [spelled.names,← names],fun plain after => ?_,
    fun verbatim after later scanned => ?_⟩
  · rw [names] at plain
    have closes : Reads (.text ((content.flatMap (Piece.text env)).reverse ++ [])) []
        (content.flatMap (Piece.text env)) := by
      have closes : Reads (.text (content.flatMap (Piece.text env)).reverse) [] _ := .close
      rwa [List.reverse_reverse,← List.append_nil (List.reverse _)] at closes
    rw [spelled.leads plain,expands]
    exact closes.scanned after
  · by_cases bare : variablesFrom .plain l.content = []
    · rw [bare]
      exact List.forall_mem_nil _
    · have same := verbatim bare
      rw [same] at cut reads
      obtain rfl := Option.some.inj (cut.symm.trans cuts)
      rw [expands] at scanned
      exact (plain_pieces cut reads.plain).mp (Json.plain_of_scan scanned).1

theorem scan_expanded (env : Environment) {scan : Scan} {cs : List Char} {ts : List Token}
    {ls : List Literal} (lexed : Lexed scan cs ts ls) (unescaped : ∀ l ∈ ls, l.Unescaped)
    (defined : ∀ l ∈ ls, Defined env (variablesFrom .plain l.content)) :
    ∃ pieces, cutFrom .plain cs = some pieces ∧ Defined env (pieces.filterMap Piece.name?) ∧
      ((∀ l ∈ ls, PlainValues env (variablesFrom .plain l.content)) →
        scanAll scan [] (pieces.flatMap (Piece.text env)) =
          some (ts.map (Token.mapText env.expanded))) ∧
      ((∀ l ∈ ls, variablesFrom .plain l.content ≠ [] → l.written = l.content) →
        scanAll scan [] (pieces.flatMap (Piece.text env)) =
            some (ts.map (Token.mapText env.expanded)) →
          ∀ l ∈ ls, PlainValues env (variablesFrom .plain l.content)) := by
  induction lexed with
  | finish outside last =>
      refine ⟨[],rfl,nofun,fun _ => ?_,nofun⟩
      rw [(Json.finishScan_textless last).map,List.flatMap_nil,Json.scanAll_nil,last]
  | @char scan next c rest more ts ls outside step bare lexed ih =>
      obtain ⟨pieces,cut,known,same,only_⟩ := ih unescaped defined
      have along := Json.outside_step outside step
      have scans : scanAll scan [] ((Piece.char c :: pieces).flatMap (Piece.text env)) =
            some ((more ++ ts).map (Token.mapText env.expanded)) ↔
          scanAll next [] (pieces.flatMap (Piece.text env)) =
            some (ts.map (Token.mapText env.expanded)) := by
        rw [List.flatMap_cons,Piece.text,List.singleton_append,Json.scanAll_cons step,
          List.map_append,along.textless.map,prefix_some]
      refine ⟨.char c :: pieces,?_,known,fun plain => scans.mpr (same plain),
        fun verbatim scanned => only_ verbatim (scans.mp scanned)⟩
      rw [cutFrom_char along.dollarless,cut]
      rfl
  | @literal scan written content rest more ts ls outside step reads lexed ih =>
      obtain ⟨here,unescaped⟩ := List.forall_mem_cons.mp unescaped
      obtain ⟨given,defined⟩ := List.forall_mem_cons.mp defined
      obtain ⟨pieces,cut,known,same,only_⟩ := ih unescaped defined
      obtain ⟨inside,cuts,used,reads,only⟩ := literal_expanded reads here given
      have along := Json.outside_step outside step
      have scans (later : List Token) : scanAll scan []
            ((Piece.char '"' :: (inside ++ .char '"' :: pieces)).flatMap (Piece.text env)) =
            some (more ++ later) ↔
          scanAll (.text []) [] (inside.flatMap (Piece.text env) ++
            '"' :: pieces.flatMap (Piece.text env)) = some later := by
        rw [List.flatMap_cons,Piece.text,List.singleton_append,Json.scanAll_cons step,prefix_some,
          List.flatMap_append,List.flatMap_cons,Piece.text,List.singleton_append]
      refine ⟨.char '"' :: (inside ++ .char '"' :: pieces),?_,?_,fun plain => ?_,
        fun verbatim scanned => ?_⟩
      · rw [cutFrom_char along.dollarless,cutFrom_mark cuts,cut]
        rfl
      · rw [List.filterMap_cons_none rfl,List.filterMap_append,List.filterMap_cons_none rfl]
        exact List.forall_mem_append.mpr ⟨used,known⟩
      · obtain ⟨own,plain⟩ := List.forall_mem_cons.mp plain
        rw [List.map_append,along.textless.map,scans,reads own,same plain]
        rfl
      · obtain ⟨own,verbatim⟩ := List.forall_mem_cons.mp verbatim
        rw [List.map_append,along.textless.map,scans] at scanned
        have plain := only own _ _ scanned
        rw [reads plain] at scanned
        exact List.forall_mem_cons.mpr ⟨plain,only_ verbatim ((prefix_some [_]).mp scanned)⟩

end Scanning

section Reading

variable {env : Environment} {text : String} {j : Json}

theorem written_tokens (written : parseAsWritten? text = some j) :
    Lexed .between text.toList j.tokens (Json.literals text) ∧
      scanAll .between [] text.toList = some j.tokens ∧ readTokens (.value []) j.tokens = some j := by
  obtain ⟨ts,scanned,read⟩ := Option.bind_eq_some_iff.mp written
  have lexed := Json.lexed rfl scanned
  have same := Json.readTokens_written (r := .value []) trivial lexed.scalar read
  obtain rfl : ts = j.tokens := same
  exact ⟨lexed,scanned,read⟩

theorem parse_tokens {cs : List Char} (readable : readTokens (.value []) j.tokens = some j) :
    parseAsWritten? (String.ofList cs) = some j ↔ scanAll .between [] cs = some j.tokens := by
  constructor
  · intro written
    have scanned := (written_tokens written).2.1
    rwa [String.toList_ofList] at scanned
  · intro scanned
    rw [parseAsWritten?,String.toList_ofList,scanned]
    exact readable

theorem parse_expanded (written : parseAsWritten? text = some j)
    (outside : ∀ name ∈ j.memberNames, '$' ∉ name.toList)
    (unescaped : ∀ l ∈ Json.literals text, '$' ∈ l.content → l.Unescaped)
    (defined : Defined env (jsonVariables j)) :
    env.expandJson j = .ok (j.mapTexts env.expanded) ∧ ∃ raw, env.expand text = .ok raw ∧
      (PlainValues env (jsonVariables j) → parseAsWritten? raw = some (j.mapTexts env.expanded)) ∧
      ((∀ l ∈ Json.literals text, variablesFrom .plain l.content ≠ [] → l.written = l.content) →
        parseAsWritten? raw = some (j.mapTexts env.expanded) →
          PlainValues env (jsonVariables j)) := by
  obtain ⟨lexed,scanned,read⟩ := written_tokens written
  rw [jsonVariables_texts] at defined ⊢
  have known : ∀ s ∈ j.texts, Defined env (variableNames s) := fun s inside name used =>
    defined name (List.mem_flatMap.mpr ⟨s,inside,used⟩)
  have unescaped : ∀ l ∈ Json.literals text, l.Unescaped := by
    intro l listed
    by_cases dollar : '$' ∈ l.content
    · exact unescaped l listed dollar
    · exact unescaped_dollarless (lexed.reads l listed) dollar
  have expands : ∀ s ∈ j.texts, env.expand s = .ok (env.expanded s) := by
    intro s inside
    obtain ⟨l,listed,rfl⟩ := (lexed.texts s).mp ((Json.text_tokens s j).mpr (.inr inside))
    obtain ⟨_,pieces,-,cut,-⟩ := unescaped l listed
    have expands := expand_pieces (by rwa [String.toList_ofList]) (known _ inside)
    rw [expanded_ok expands,expands]
  refine ⟨expandJson_texts j expands,?_⟩
  -- What stands between marks is the name of a member or another text of the value.
  have strings (l : Literal) (listed : l ∈ Json.literals text) :
      String.ofList l.content ∈ j.memberNames ∨ String.ofList l.content ∈ j.texts :=
    (Json.text_tokens _ j).mp ((lexed.texts _).mpr ⟨l,listed,rfl⟩)
  have cutNames (l : Literal) :
      variablesFrom .plain l.content = variableNames (String.ofList l.content) := by
    rw [variableNames,String.toList_ofList]
  have nameless (s : String) (inside : s ∈ j.memberNames) : variableNames s = [] :=
    (expand_dollarless env (outside s inside)).2
  obtain ⟨pieces,cut,given,reads,only⟩ := scan_expanded env lexed unescaped fun l listed => by
      rw [cutNames]
      rcases strings l listed with member | inside
      · rw [nameless _ member]
        exact List.forall_mem_nil _
      · exact known _ inside
  have expands := expand_pieces cut (by rwa [variableNames,variablesFrom_pieces cut])
  refine ⟨_,expands,?_⟩
  have renamed : j.mapTexts env.expanded = j.mapStrings env.expanded env.expanded := by
    refine Json.mapStrings_congr j (fun s inside => ?_) fun s _ => rfl
    exact (expanded_ok (expand_dollarless env (outside s inside)).1).symm
  have readable : readTokens (.value []) (j.mapStrings env.expanded env.expanded).tokens =
      some (j.mapStrings env.expanded env.expanded) := by
    rw [Json.tokens_map]
    refine (Json.readTokens_map (.value []) lexed.scalar).trans ?_
    rw [read]
    rfl
  rw [renamed,parse_tokens readable,Json.tokens_map]
  refine ⟨fun plain => reads fun l listed name used => ?_,fun verbatim scanned name used => ?_⟩
  · rw [cutNames] at used
    rcases strings l listed with member | inside
    · rw [nameless _ member] at used
      cases used
    · exact plain name (List.mem_flatMap.mpr ⟨_,inside,used⟩)
  · obtain ⟨s,inside,used⟩ := List.mem_flatMap.mp used
    obtain ⟨l,listed,rfl⟩ := (lexed.texts s).mp ((Json.text_tokens s j).mpr (.inr inside))
    exact only verbatim scanned l listed name (by rwa [cutNames])

end Reading

theorem expanded_fixes (env : Environment) : FixesDollarless env.expanded :=
  fun _ dollarless => expanded_ok (expand_dollarless env dollarless).1

namespace DatasetSettings

variable {s : DatasetSettings} {env : Environment} {text : String} {j : Json} {e : Expr}

-- For a filter whose texts refer to variables, none of which is written with escapes: with values
-- that stand for themselves the filter is the written one with its texts expanded, and where the
-- texts with references have no escapes at all, with no others. (A backslash as the value before an
-- escaped slash is a value that does not stand for itself, and yet happens to be read as it is.)
theorem filter_expanded (zones : Time.Zone.Database) (configured : s.filter = some text)
    (written : Json.parseAsWritten? text = some j) (decoded : Expr.ofJson? zones j = some e)
    (outside : ∀ name ∈ j.memberNames, '$' ∉ name.toList)
    (unescaped : ∀ l ∈ Json.literals text, '$' ∈ l.content → l.Unescaped)
    (defined : ∀ name ∈ jsonVariables j, (env.get? name).isSome) :
    ∃ expanded raw, env.expandJson j = .ok expanded ∧
      Expr.ofJson? zones expanded = some (e.mapTexts env.expanded) ∧ env.expand text = .ok raw ∧
      (PlainValues env (jsonVariables j) → Json.parseAsWritten? raw = some expanded ∧
        s.baseFilter zones env = .ok (e.mapTexts env.expanded)) ∧
      ((∀ l ∈ Json.literals text, variablesFrom .plain l.content ≠ [] → l.written = l.content) →
        Json.parseAsWritten? raw = some expanded → PlainValues env (jsonVariables j)) := by
  obtain ⟨expands,raw,puts,reads,only⟩ := parse_expanded written outside unescaped defined
  have changes := Expr.ofJson_changed (expanded_fixes env) decoded
  refine ⟨_,raw,expands,changes,puts,fun plain => ⟨reads plain,?_⟩,only⟩
  simp only [baseFilter,configured,puts,bind,Except.bind,reads plain,Option.bind_some,changes]
  rfl

namespace Visits

def settings (filter : String) : DatasetSettings :=
  { engine := "druid"
    source := "visits"
    timeAttribute := none
    attributes := []
    filter := some filter
    context := []
    allowSelectQueries := false
    allowClientSideSplits := false
    customAggregations := []
    lookups := [] }

-- The records are written as lists, and the slash is escaped.
def byLanguage : String :=
  "[\"is\",[\"ref\",\"path\"],[\"literal\",[\"STRING\",\"\\/$\x7bLANG\x7d\"]]]"

def byLanguageForm : Json :=
  .arr [.str "is",.arr [.str "ref",.str "path"],
    .arr [.str "literal",.arr [.str "STRING",.str "/$\x7bLANG\x7d"]]]

theorem english_visits : (settings byLanguage).baseFilter Time.Zone.table [("LANG","en")] =
    .ok (.binary .is (.ref "path") (.literal (.string "/en"))) := by
  have plain : PlainValues [("LANG","en")] (jsonVariables byLanguageForm) := by
    intro name used value found
    obtain rfl : name = "LANG" := List.mem_singleton.mp used
    cases found
    intro c inside
    obtain rfl | rfl : c = 'e' ∨ c = 'n' := by simpa using inside
    all_goals decide
  have configured : (settings byLanguage).filter = some byLanguage := rfl
  have written : Json.parseAsWritten? byLanguage = some byLanguageForm := rfl
  have decoded : Expr.ofJson? Time.Zone.table byLanguageForm =
    some (.binary .is (.ref "path") (.literal (.string "/$\x7bLANG\x7d"))) := rfl
  have slash : Json.Reads (.text []) ['\\','/'] ['/'] :=
    .more rfl rfl rfl (.more rfl rfl rfl .close)
  have unescaped : ∀ l ∈ Json.literals byLanguage, '$' ∈ l.content → l.Unescaped := by
    intro l listed dollar
    obtain rfl | plain : l = ⟨"\\/$\x7bLANG\x7d".toList,"/$\x7bLANG\x7d".toList⟩ ∨ '$' ∉ l.content := by
      revert l
      decide +kernel
    · exact ⟨_,_,rfl,rfl,.reference "LANG" slash (.last .close)⟩
    · exact absurd dollar plain
  have defined : ∀ name ∈ jsonVariables byLanguageForm,
    (Table.get? [("LANG","en")] name).isSome := by decide +kernel
  obtain ⟨_,_,-,-,-,keeps,-⟩ := filter_expanded Time.Zone.table configured written decoded
    (by decide +kernel) unescaped defined
  exact (keeps plain).2

def byColumn : String :=
  "[\"or\",[[\"ref\",\"$\x7bCOLUMN\x7d\"]]]"

def byColumnForm (column : String) : Json :=
  .arr [.str "or",.arr [.arr [.str "ref",.str column]]]

def bots : String :=
  "bot\"],[\"ref\",\"human"

-- The value closes the text it stands in, and what follows is read as another column.
theorem second_column : Json.parseAsWritten? byColumn = some (byColumnForm "$\x7bCOLUMN\x7d") ∧
    Expr.ofJson? Time.Zone.table (byColumnForm "$\x7bCOLUMN\x7d") = some (.or [.ref "$\x7bCOLUMN\x7d"]) ∧
    expandJson [("COLUMN",bots)] (byColumnForm "$\x7bCOLUMN\x7d") = .ok (byColumnForm bots) ∧
    Expr.ofJson? Time.Zone.table (byColumnForm bots) = some (.or [.ref bots]) ∧
    (settings byColumn).baseFilter Time.Zone.table [("COLUMN",bots)] = .ok (.or [.ref "bot",.ref "human"]) ∧
    (settings byColumn).baseFilter Time.Zone.table [("COLUMN",bots)] ≠ .ok (.or [.ref bots]) := by
  have expands : expand [("COLUMN",bots)] byColumn =
    .ok "[\"or\",[[\"ref\",\"bot\"],[\"ref\",\"human\"]]]" := by decide +kernel
  have column : expand [("COLUMN",bots)] "$\x7bCOLUMN\x7d" = .ok bots := by decide +kernel
  have reads : Json.parseAsWritten? "[\"or\",[[\"ref\",\"bot\"],[\"ref\",\"human\"]]]" =
    some (.arr [.str "or",.arr [.arr [.str "ref",.str "bot"],.arr [.str "ref",.str "human"]]]) := rfl
  have decodes : Expr.ofJson? Time.Zone.table (.arr [.str "or",.arr [.arr [.str "ref",.str "bot"],
    .arr [.str "ref",.str "human"]]]) = some (.or [.ref "bot",.ref "human"]) := rfl
  have filters : (settings byColumn).baseFilter Time.Zone.table [("COLUMN",bots)] =
      .ok (.or [.ref "bot",.ref "human"]) := by
    simp only [baseFilter,settings,expands,bind,Except.bind,reads,Option.bind_some,decodes]
    rfl
  refine ⟨rfl,rfl,?_,rfl,filters,fun same => ?_⟩
  · have bare : expand [("COLUMN",bots)] "or" = .ok "or" := by decide +kernel
    have also : expand [("COLUMN",bots)] "ref" = .ok "ref" := by decide +kernel
    simp only [byColumnForm,expandJson,expandItems,bare,also,column,bind,Except.bind]
    rfl
  · have operands := (Expr.junction.inj (Except.ok.inj (filters.symm.trans same))).2
    exact absurd (congrArg List.length operands) (by decide)

end Visits

end DatasetSettings

end OlapQuery
