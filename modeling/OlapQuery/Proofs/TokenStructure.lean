import OlapQuery.Proofs.DialectTables
import OlapQuery.Proofs.SqlContents

-- Expressions that differ in contents only are rendered to alike texts, or neither is rendered.
-- So contents change no token but their own.

namespace OlapQuery.Sql

open Time (Zone)

section Texts

variable {d : Dialect} {pairs : List (String × String)} {ps qs : List String} {separator : String}

theorem intercalate_alike (each : List.Forall₂ (Piece d pairs) ps qs) (joint : Joint separator) :
    Piece d pairs (separator.intercalate ps) (separator.intercalate qs) := by
  induction each with
  | nil => exact Piece.empty
  | @cons p q ps qs head tail ih =>
      cases tail with
      | nil => simpa using head
      | cons next rest =>
          rw [String.intercalate_cons_cons,String.intercalate_cons_cons]
          exact (head.followed joint).append ih

theorem joined_alike (each : List.Forall₂ (Piece d pairs) ps qs) (joint : Joint separator) :
    Piece d pairs (joined separator ps) (joined separator qs) :=
  ((intercalate_alike each joint).call (.of_chars (by decide)) (.of_chars (by decide))).piece

end Texts

namespace Renderer

variable {r : Renderer} {pairs : List (String × String)} {a b : String}

theorem anyOf_alike {ps qs : List String} (each : List.Forall₂ (Piece r.dialect pairs) ps qs) :
    Piece r.dialect pairs (r.anyOf ps) (r.anyOf qs) := by
  cases each with
  | nil => exact (Dialect.formatBool_opening false).piece
  | cons head tail =>
      cases tail with
      | nil => exact head
      | cons next rest => exact joined_alike (.cons head (.cons next rest)) (.of_chars (by decide))

theorem bounds_alike {l m u v : Option String} (lower : Option.Rel (Piece r.dialect pairs) l m)
    (upper : Option.Rel (Piece r.dialect pairs) u v) :
    Piece r.dialect pairs (r.bounds l u) (r.bounds m v) := by
  have joint : Joint " AND " := .of_chars (by decide)
  cases lower with
  | none =>
      cases upper with
      | none => exact (Dialect.formatBool_opening true).piece
      | some high => exact joined_alike (.cons high .nil) joint
  | some low =>
      cases upper with
      | none => exact joined_alike (.cons low .nil) joint
      | some high => exact joined_alike (.cons low (.cons high .nil)) joint

theorem map_rel {α β γ : Type} {related : β → γ → Prop} (value : Option α) {f : α → β} {g : α → γ}
    (each : ∀ a, related (f a) (g a)) : Option.Rel related (value.map f) (value.map g) := by
  cases value with
  | none => exact .none
  | some a => exact .some (each a)

theorem timeRange_alike (operand : Piece r.dialect pairs a b) (range : TimeRange) :
    Piece r.dialect pairs (r.timeRange a range) (r.timeRange b range) :=
  bounds_alike
    (map_rel _ fun t => ((Dialect.timeToSql_alike t).followed (.of_chars (by decide))).append operand)
    (map_rel _ fun t => (operand.followed (.of_chars (by decide))).append (Dialect.timeToSql_alike t))

theorem number_alike (x : Float) :
    Piece r.dialect pairs (Dialect.formatNumber x) (Dialect.formatNumber x) :=
  (number_clean x).settled.opening.piece

theorem numberRange_alike (operand : Piece r.dialect pairs a b) (range : NumberRange) :
    Piece r.dialect pairs (r.numberRange a range) (r.numberRange b range) :=
  bounds_alike
    (map_rel _ fun x => ((number_alike x).followed (.of_chars (by decide))).append operand)
    (map_rel _ fun x => (operand.followed (.of_chars (by decide))).append (number_alike x))

theorem numberBucket_alike (operand : Piece r.dialect pairs a b) (size offset : Float) :
    Piece r.dialect pairs (numberBucket a size offset) (numberBucket b size offset) := by
  have times : Joint ") * " := .of_chars (by decide)
  have width : Piece r.dialect pairs (Dialect.formatNumber size) (Dialect.formatNumber size) :=
    number_alike size
  have start : Piece r.dialect pairs (Dialect.formatNumber offset) (Dialect.formatNumber offset) :=
    number_alike offset
  unfold numberBucket
  dsimp only
  split
  · refine (operand.pair width ?_ ?_ times).append width <;> exact .of_chars (by decide)
  · refine (((((operand.pair start ?_ ?_ ?_).append width).followed times).append width).followed
      ?_).append start <;> exact .of_chars (by decide)

section Values

variable {v w : Value} (reworded : Reworded Value.blank Value.contents pairs v w)
include reworded

theorem literal_alike : Together (Piece r.dialect pairs) (r.literal v) (r.literal w) := by
  rcases Value.reworded_cases reworded with ⟨rfl,single⟩ | ⟨s,t,rfl,rfl,listed⟩ | ⟨type,vs,ws,rfl,rfl,each⟩
  · cases v with
    | null => exact .ok (Settled.of_chars (by decide)).opening.piece
    | boolean value => exact .ok (Dialect.formatBool_opening value).piece
    | number x => exact .ok (number_alike x)
    | string s => exact .ok (.quoteString (.inl rfl))
    | time t => exact .ok (Dialect.timeToSql_alike t)
    | timeRange range => exact .error
    | numberRange range => exact .error
    | set type elements => exact .error
  · exact .ok (.quoteString (.inr listed))
  · exact .error

theorem isNull_same : isNull v = isNull w := by
  rcases Value.reworded_cases reworded with ⟨rfl,single⟩ | ⟨s,t,rfl,rfl,-⟩ | ⟨type,vs,ws,rfl,rfl,-⟩ <;> rfl

theorem isRange_same : isRange v = isRange w := by
  rcases Value.reworded_cases reworded with ⟨rfl,single⟩ | ⟨s,t,rfl,rfl,-⟩ | ⟨type,vs,ws,rfl,rfl,-⟩ <;> rfl

theorem rangeClause_alike (operand : Piece r.dialect pairs a b) :
    Option.Rel (Piece r.dialect pairs) (r.rangeClause? a v) (r.rangeClause? b w) := by
  rcases Value.reworded_cases reworded with ⟨rfl,single⟩ | ⟨s,t,rfl,rfl,-⟩ | ⟨type,vs,ws,rfl,rfl,-⟩
  · cases v with
    | timeRange range => exact .some (timeRange_alike operand range)
    | numberRange range => exact .some (numberRange_alike operand range)
    | _ => exact .none
  · exact .none
  · exact .none

end Values

theorem setMembership_alike {vs ws : List Value} (operand : Piece r.dialect pairs a b)
    (each : List.Forall₂ (Reworded Value.blank Value.contents pairs) vs ws) :
    Together (Piece r.dialect pairs) (r.setMembership a vs) (r.setMembership b ws) := by
  have scalars : List.Forall₂ (Reworded Value.blank Value.contents pairs)
      (vs.filter (fun e => !isNull e && !isRange e)) (ws.filter (fun e => !isNull e && !isRange e)) := by
    refine List.rel_filter (fun v w reworded => ?_) each
    simp only [isNull_same reworded,isRange_same reworded]
  have ranges : List.Forall₂ (Piece r.dialect pairs) (vs.filterMap (r.rangeClause? a))
      (ws.filterMap (r.rangeClause? b)) :=
    List.rel_filterMap (fun v w reworded => rangeClause_alike reworded operand) each
  have absent : vs.any isNull = ws.any isNull := by
    clear scalars ranges
    induction each with
    | nil => rfl
    | cons head tail ih => rw [List.any_cons,List.any_cons,isNull_same head,ih]
  refine (Together.mapM scalars fun v w reworded => literal_alike reworded).bind fun ps qs texts => ?_
  refine .ok (anyOf_alike (List.rel_append (List.rel_append ?_ ranges) ?_))
  · cases texts with
    | nil => exact .nil
    | cons head tail =>
        have comma : Joint "," := .of_chars (by decide)
        have listed := intercalate_alike (.cons head tail) comma
        refine .cons (((operand.followed ?_).append listed).followed ?_).piece .nil <;>
          exact .of_chars (by decide)
  · rw [absent]
    split
    · have start : Opening r.dialect pairs (a ++ " IS ") (b ++ " IS ") :=
        operand.followed (.of_chars (by decide))
      exact .cons (start.followed (.of_chars (by decide))).piece .nil
    · exact .nil

theorem membership_alike {x y : Compiled String} {e f : Expr}
    (operand : Together (Piece r.dialect pairs) x y)
    (reworded : Reworded Expr.blank Expr.contents pairs e f) :
    Together (Piece r.dialect pairs) (r.membership x e) (r.membership y f) := by
  cases e with
  | literal v =>
      obtain ⟨w,rfl,value⟩ := Expr.reworded_literal reworded
      refine operand.bind fun a b text => ?_
      rcases Value.reworded_cases value with ⟨rfl,single⟩ | ⟨s,t,rfl,rfl,-⟩ | ⟨type,vs,ws,rfl,rfl,each⟩
      · cases v with
        | timeRange range => exact .ok (timeRange_alike text range)
        | numberRange range => exact .ok (numberRange_alike text range)
        | set type elements => exact absurd rfl (single type elements)
        | _ =>
          exact (literal_alike value).bind fun c d literal =>
            .ok (Dialect.isNotDistinctFrom_alike text literal)
      · exact (literal_alike value).bind fun c d literal =>
          .ok (Dialect.isNotDistinctFrom_alike text literal)
      · exact setMembership_alike text each
  | _ =>
      cases f with
      | literal w => cases reworded.same
      | _ => exact .error

end Renderer

-- Alike in every place where an expression can stand.
structure Rendered.Matches (d : Dialect) (pairs : List (String × String)) (x y : Rendered) :
    Prop where
  sql : Together (Piece d pairs) x.sql y.sql
  clauses : Option.Rel (List.Forall₂ (Together (Piece d pairs))) x.clauses y.clauses
  filters : Option.Rel (Option.Rel (List.Forall₂ (Together (Piece d pairs)))) x.filters y.filters

theorem Rendered.Matches.alone {d : Dialect} {pairs : List (String × String)}
    {x y : Compiled String} (sql : Together (Piece d pairs) x y) :
    Rendered.Matches d pairs { sql := x } { sql := y } :=
  ⟨sql,.some (.cons sql .nil),.none⟩

namespace Renderer

variable {r : Renderer} {pairs : List (String × String)} {o p m n : Rendered}

theorem bothClauses_alike {related : Compiled String → Compiled String → Prop}
    {x y u v : Option (List (Compiled String))} (first : Option.Rel (List.Forall₂ related) x y)
    (second : Option.Rel (List.Forall₂ related) u v) :
    Option.Rel (List.Forall₂ related) (bothClauses x u) (bothClauses y v) := by
  cases first with
  | none => exact .none
  | some left =>
      cases second with
      | none => exact .none
      | some right => exact .some (List.rel_append left right)

theorem aggregateFilter_alike (operand : o.Matches r.dialect pairs p) (name other : String) :
    Together (Option.Rel (Piece r.dialect pairs)) (r.aggregateFilter name o)
      (r.aggregateFilter other p) := by
  have filters := operand.filters
  unfold aggregateFilter
  generalize o.filters = x at filters ⊢
  generalize p.filters = y at filters ⊢
  cases filters with
  | none => exact .error
  | some some =>
      cases some with
      | none => exact .ok (.some (Dialect.formatBool_opening false).piece)
      | some clauses =>
          cases clauses with
          | nil => exact .ok .none
          | cons head tail =>
              cases tail with
              | nil => exact head.map fun a b text => .some text
              | cons next rest =>
                  have all : List.Forall₂ (Together (Piece r.dialect pairs)) _ _ :=
                    .cons head (.cons next rest)
                  exact (Together.mapM all fun x y both => both).bind fun ps qs texts =>
                    .ok (.some (joined_alike texts (.of_chars (by decide))))

theorem filtered_alike (operand : o.Matches r.dialect pairs p)
    (measure : m.Matches r.dialect pairs n) (name other : String) {otherwise : String}
    (settled : Settled otherwise) :
    Together (Piece r.dialect pairs) (r.filtered name o m otherwise)
      (r.filtered other p n otherwise) := by
  refine measure.sql.bind fun a b value => ?_
  refine (aggregateFilter_alike operand name other).bind fun c d condition => ?_
  cases condition with
  | none => exact .ok value
  | some text =>
      refine .ok (((text.pair value ?_ ?_ ?_).followed settled).followed ?_).piece <;>
        exact .of_chars (by decide)

theorem unary_alike (sound : r.dialect.tables.Sound) {op op' : UnaryOp} {e f : Expr}
    (ops : Reworded UnaryOp.blank UnaryOp.contents pairs op op')
    (plain : ∀ zone ∈ op.zone?, Plain zone.name) (same : e.blank = f.blank)
    (operand : o.Matches r.dialect pairs p) :
    Together (Piece r.dialect pairs) (r.unary op e o) (r.unary op' f p) := by
  have clock {zone : Option Zone} (is : op.zone? = zone) : Plain (zoneOf zone).name := by
    cases zone with
    | none => exact (Clean.of_chars (by decide)).plain
    | some zone => exact plain zone is
  have mapped {g h : String → String} (keeps : ∀ {a b : String}, Piece r.dialect pairs a b →
      Piece r.dialect pairs (g a) (h b)) :
      Together (Piece r.dialect pairs) (do return g (← o.sql)) (do return h (← p.sql)) :=
    operand.sql.bind fun a b text => .ok (keeps text)
  have asked {g : String → Except (Stop DialectError) String} (keeps : ∀ {a b : String},
      Piece r.dialect pairs a b → Together (Piece r.dialect pairs) (g a) (g b)) :
      Together (Piece r.dialect pairs) (do Compiled.ofDialect (g (← o.sql)))
        (do Compiled.ofDialect (g (← p.sql))) :=
    operand.sql.bind fun a b text => (keeps text).mapError _
  rcases UnaryOp.reworded_cases ops with rfl | ⟨s,t,rfl,rfl,listed⟩ | ⟨s,t,rfl,rfl,listed⟩
  · cases op with
    | count =>
        refine (aggregateFilter_alike operand _ _).bind fun a b condition => ?_
        cases condition with
        | none => exact .ok (Settled.of_chars (by decide)).opening.piece
        | some text => exact .ok (text.call (.of_chars (by decide)) (.of_chars (by decide))).piece
    | customAggregate name => exact .error
    | absolute => exact mapped fun text => (text.call (.of_chars (by decide)) (.of_chars (by decide))).piece
    | not => exact mapped fun text => (text.call (.of_chars (by decide)) (.of_chars (by decide))).piece
    | regexMatch pattern => exact mapped fun text => Dialect.regexMatch_alike text (.inl rfl)
    | substr position len => exact operand.sql.bind fun a b text =>
        (Dialect.substr_alike text position.toInt len.toInt).mapError _
    | extract pattern => exact mapped fun text => Dialect.extract_alike text (.inl rfl)
    | lookup name => exact .error
    | timeBucket duration zone =>
        exact asked fun text => Dialect.timeFloor_alike sound text duration (clock rfl)
    | timeFloor duration zone =>
        exact asked fun text => Dialect.timeFloor_alike sound text duration (clock rfl)
    | timePart part zone =>
        exact asked fun text => Dialect.timePart_alike sound text part (clock rfl)
    | timeShift duration step zone =>
        exact mapped fun text => Dialect.timeShift_alike text duration step.toInt (clock rfl)
    | numberBucket size offset => exact mapped fun text => numberBucket_alike text size offset
    | cast type =>
        have types : r.infer e = r.infer f := by
          rw [infer,infer,← Expr.inferType_blank _ e,same,Expr.inferType_blank]
        unfold unary
        dsimp only
        rw [types]
        cases r.infer f with
        | error fault => exact .error
        | ok source =>
            exact asked fun text => Dialect.castExpression_alike sound text source type
    | limit count => exact .error
  · exact mapped fun text => Dialect.regexMatch_alike text (.inr listed)
  · exact mapped fun text => Dialect.extract_alike text (.inr listed)

theorem binary_alike {e f x y : Expr} (op : BinaryOp)
    (reworded : Reworded Expr.blank Expr.contents pairs x y)
    (operand : o.Matches r.dialect pairs p) (expression : m.Matches r.dialect pairs n) :
    Together (Piece r.dialect pairs) (r.binary op e x o m) (r.binary op f y p n) := by
  have both {g : String → String → String} (keeps : ∀ {a b c d : String},
      Piece r.dialect pairs a b → Piece r.dialect pairs c d →
        Piece r.dialect pairs (g a c) (g b d)) :
      Together (Piece r.dialect pairs) (do return g (← o.sql) (← m.sql))
        (do return g (← p.sql) (← n.sql)) :=
    operand.sql.bind fun a b left => expression.sql.bind fun c d right => .ok (keeps left right)
  have aggregate {function otherwise : String} (before : Settled function)
      (settled : Settled otherwise) : Together (Piece r.dialect pairs)
        (do return function ++ (← r.filtered e.opName o m otherwise) ++ ")")
        (do return function ++ (← r.filtered f.opName p n otherwise) ++ ")") :=
    (filtered_alike operand expression _ _ settled).bind fun a b text =>
      .ok (text.call before (.of_chars (by decide))).piece
  cases op with
  | sum => exact aggregate (.of_chars (by decide)) (.of_chars (by decide))
  | min => exact aggregate (.of_chars (by decide)) (.of_chars (by decide))
  | max => exact aggregate (.of_chars (by decide)) (.of_chars (by decide))
  | average => exact aggregate (.of_chars (by decide)) (.of_chars (by decide))
  | countDistinct => exact aggregate (.of_chars (by decide)) (.of_chars (by decide))
  | member => exact membership_alike operand.sql reworded
  | overlap => exact membership_alike operand.sql reworded
  | is => exact both Dialect.isNotDistinctFrom_alike
  | contains ignoreCase =>
      cases ignoreCase with
      | true =>
          have lower {a b : String} (text : Piece r.dialect pairs a b) :
              Piece r.dialect pairs ("LOWER(" ++ a ++ ")") ("LOWER(" ++ b ++ ")") :=
            (text.call (.of_chars (by decide)) (.of_chars (by decide))).piece
          exact both fun left right => Dialect.contains_alike (lower left) (lower right)
      | false => exact both Dialect.contains_alike
  | concat => exact both Dialect.concat_alike
  | indexOf => exact both Dialect.indexOf_alike
  | fallback | power | add | subtract | multiply | divide | greaterThan | greaterThanOrEqual | lessThan
  | lessThanOrEqual =>
      refine both fun left right => (left.pair right ?_ ?_ ?_).piece <;> exact .of_chars (by decide)
  | filter => exact .error
  | apply name => exact .error
  | sort direction => exact .error

theorem junction_alike {os ps : List Rendered} (op : Junction)
    (each : List.Forall₂ (Rendered.Matches r.dialect pairs) os ps) :
    Together (Piece r.dialect pairs) (r.junction op os) (r.junction op ps) := by
  refine (Together.mapM each fun o p operand => operand.sql).bind fun as bs texts => ?_
  cases op with
  | and =>
      cases texts with
      | nil => exact .ok (Dialect.formatBool_opening true).piece
      | cons head tail => exact .ok (joined_alike (.cons head tail) (.of_chars (by decide)))
  | or =>
      cases texts with
      | nil => exact .ok (Dialect.formatBool_opening false).piece
      | cons head tail => exact .ok (joined_alike (.cons head tail) (.of_chars (by decide)))

theorem renderedAll_map (es : List Expr) : r.renderedAll es = es.map r.rendered := by
  induction es with
  | nil => simp [renderedAll]
  | cons e rest ih => simp [renderedAll,ih]

theorem rendered_alike (sound : r.dialect.tables.Sound) {e f : Expr}
    (reworded : Reworded Expr.blank Expr.contents pairs e f)
    (plain : ∀ zone ∈ e.zones, Plain zone.name) :
    (r.rendered e).Matches r.dialect pairs (r.rendered f) := by
  induction e using Expr.structural generalizing f with
  | literal v =>
      obtain ⟨w,rfl,value⟩ := Expr.reworded_literal reworded
      have text := literal_alike value (r := r)
      rcases Value.reworded_cases value with ⟨rfl,single⟩ | ⟨s,t,rfl,rfl,-⟩ | ⟨type,vs,ws,rfl,rfl,-⟩
      · cases v with
        | boolean b =>
            cases b with
            | true => exact ⟨text,.some .nil,.none⟩
            | false => exact ⟨text,.none,.none⟩
        | _ => exact .alone text
      · exact .alone text
      · exact .alone text
  | ref name =>
      cases f with
      | ref other =>
          cases reworded.same
          have text : Together (Piece r.dialect pairs) (r.reference name) (r.reference name) := by
            unfold reference
            split
            · exact .ok (.quoteIdentifier name)
            · exact .error
          exact ⟨text,.some (.cons text .nil),.some (.some .nil)⟩
      | _ => cases reworded.same
  | ply =>
      cases f with
      | ply => exact .alone .error
      | _ => cases reworded.same
  | unary op e ih =>
      obtain ⟨op',f,rfl,ops,operand⟩ := Expr.reworded_unary reworded
      rw [Expr.zones_unary] at plain
      have inner := ih operand fun zone listed => plain zone (List.mem_append_right _ listed)
      exact .alone (unary_alike sound ops
        (fun zone is => plain zone (List.mem_append_left _ (Option.mem_toList.mpr is)))
        operand.same inner)
  | binary op e x left right =>
      obtain ⟨f,y,rfl,operand,expression⟩ := Expr.reworded_binary reworded
      rw [Expr.zones_binary] at plain
      have first := left operand fun zone listed => plain zone (List.mem_append_left _ listed)
      have second := right expression fun zone listed => plain zone (List.mem_append_right _ listed)
      have text := binary_alike op expression first second (e := e) (f := f)
      refine ⟨text,.some (.cons text .nil),?_⟩
      simp only [rendered]
      split
      · have filters := first.filters
        generalize (r.rendered e).filters = u at filters ⊢
        generalize (r.rendered f).filters = v at filters ⊢
        cases filters with
        | none => exact .none
        | some clauses => exact .some (bothClauses_alike clauses second.clauses)
      · exact .none
  | junction op es each =>
      obtain ⟨fs,rfl,operands⟩ := Expr.reworded_junction reworded
      rw [Expr.zones_junction] at plain
      have parts : List.Forall₂ (Rendered.Matches r.dialect pairs) (r.renderedAll es)
          (r.renderedAll fs) := by
        rw [renderedAll_map,renderedAll_map,List.forall₂_map_left_iff,List.forall₂_map_right_iff]
        have inner : ∀ e ∈ es, ∀ g, Reworded Expr.blank Expr.contents pairs e g →
            (r.rendered e).Matches r.dialect pairs (r.rendered g) := fun e listed g reworded =>
          each e listed reworded fun zone inside =>
            plain zone (List.mem_flatMap.mpr ⟨e,listed,inside⟩)
        exact ((List.forall₂_and_left es fs).mpr ⟨inner,operands⟩).imp fun _ g both => both.1 g both.2
      have text := junction_alike op parts
      refine ⟨text,?_,.none⟩
      cases op with
      | and =>
          exact List.rel_foldl (fun _ _ clauses _ _ part => bothClauses_alike clauses part.clauses)
            (.some .nil) parts
      | or => exact .some (.cons text .nil)
  | split e keys dataName operand each =>
      cases f with
      | split f keys' dataName' => exact .alone .error
      | _ => cases reworded.same

end Renderer

theorem known_plain (zones : Zone.Database) {name : String} {zone : Zone}
    (known : zones.find? name = some zone) : Plain zone.name := by
  rw [zones.named known]
  refine List.all_eq_true.mpr fun c listed => ?_
  have allowed := List.all_eq_true.mp (zones.plain known) c listed
  rw [unescaped,Bool.and_eq_true,bne_iff_ne,bne_iff_ne]
  constructor
  · rintro rfl
    exact absurd allowed (by decide)
  · rintro rfl
    exact absurd allowed (by decide)

namespace Visitors

def dataset : Dataset :=
  { engine := .postgres,source := "visits"
    attributes := [{ name := "name",type := .string },{ name := "entered",type := .time },
      { name := "left",type := .time }] }

def renderer : Renderer :=
  { dialect := Family.postgres.dialect,dataset }

def within (name : String) : Expr :=
  .and [.is (.ref "name") (.literal (.string name)),
    .lessThan (.ref "left") (.unary (.timeShift { days := 1 } 1 (some Zone.tokyo)) (.ref "entered"))]

def text (name : String) : String :=
  "((\"name\"=" ++ name ++ ") AND (\"left\"<(((((\"entered\" AT TIME ZONE 'UTC') AT TIME ZONE "
    ++ "'Asia/Tokyo') + INTERVAL '1 day') AT TIME ZONE 'Asia/Tokyo') AT TIME ZONE 'UTC')))"

end Visitors

end OlapQuery.Sql
