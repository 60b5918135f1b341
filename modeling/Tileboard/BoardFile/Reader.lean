import Tileboard.BoardFile.State

/-!
Reading board files, character by character.

`State.feed` is the step of the reader for one character, and `State.finish` is its answer at the
end of the text.  A text is read from left to right and the first fault is final: `feedAll_append`
says that the state behind a text is all that the rest of it depends on.

A number ends where a character does not continue it; every other value ends with a character of its
own.
-/

namespace Tileboard.BoardFile

/-- Whether the character may stand between the parts of a file. -/
def isSpace (c : Char) : Bool :=
  c == ' ' || c == '\n' || c == '\t' || c == '\r'

/-! ## Fields -/

/-- The field of a file with the given name. -/
def FileField.ofName? (name : String) : Option FileField :=
  all.find? (·.name == name)

/-- The field of a tile with the given name. -/
def TokenField.ofName? (name : String) : Option TokenField :=
  all.find? (·.name == name)

/-- The value of a field of the file. -/
def OpenFile.wanted (f : OpenFile) : FileField → Wanted
  | .rows => .rows f
  | .cols => .cols f
  | .cells => .cells f

/-- The value of a field of the tile. -/
def OpenToken.wanted (t : OpenToken) : TokenField → Wanted
  | .kind => .kind t
  | .param => .param t

/-- The value that a name in a file announces. -/
def OpenFile.key (f : OpenFile) (name : String) : Except Fault Wanted :=
  match FileField.ofName? name with
  | some field => if f.has field then .error (.duplicateField name) else .ok (f.wanted field)
  | none => .ok (.skipped [] (.file f))

/-- The value that a name in a tile announces. -/
def OpenToken.key (t : OpenToken) (name : String) : Except Fault Wanted :=
  match TokenField.ofName? name with
  | some field => if t.has field then .error (.duplicateField name) else .ok (t.wanted field)
  | none => .ok (.skipped [] (.token t))

/-! ## Brackets -/

/-- The innermost brackets behind a value that was skipped. -/
def resume : List Bracket → Owner → Container
  | [], .file f => .file f
  | [], .token t => .token t
  | innermost :: outer, owner => .skipped innermost outer owner

/-- Whether the brackets are those of an object. -/
def Container.isObject : Container → Bool
  | file f => f.form == .named
  | cells _ => false
  | row _ => false
  | token t => t.form == .named
  | skipped innermost _ _ => innermost == .object

/-- The value that the next item of a list is; none if all fields have been given. -/
def Container.item? : Container → Option Wanted
  | file f => f.missing?.map f.wanted
  | cells m => some (.row m)
  | row r => some (.cell r)
  | token t => t.missing?.map t.wanted
  | skipped innermost outer owner => some (.skipped (innermost :: outer) owner)

/-- Whether the brackets belong to a value that is skipped. -/
def Container.isSkipped : Container → Bool
  | skipped .. => true
  | _ => false

/-- What a closing bracket makes of a file. -/
def OpenFile.close (f : OpenFile) : Except Fault State :=
  match f.rows, f.cols, f.cells with
  | some rows, some cols, some cells => .ok (.done ⟨rows, cols, cells⟩)
  | _, _, _ =>
    match f.form, f.missing? with
    | .named, some field => .error (.missingField field.name)
    | _, _ => .error (.wrongLength f.count .file)

/-- What a closing bracket makes of a tile. -/
def OpenToken.close (t : OpenToken) : Except Fault State :=
  match t.kind, t.param with
  | some kind, some param => .ok (.inside .afterItem (.row (t.row.push (some ⟨kind, param⟩))))
  | _, _ =>
    match t.form, t.missing? with
    | .named, some field => .error (.missingField field.name)
    | _, _ => .error (.wrongLength t.count .token)

/-- What the closing bracket makes of the innermost brackets. -/
def Container.close : Container → Except Fault State
  | file f => f.close
  | cells m => .ok (.inside .afterItem (.file { m.file with cells := some m.rows.toList }))
  | row r => .ok (.inside .afterItem (.cells (r.cells.push r.row.toList)))
  | token t => t.close
  | skipped _ outer owner => .ok (.inside .afterItem (resume outer owner))

/-! ## The first character of a value -/

/-- The first character of a value that is refused, whatever it is. -/
def refuse (expected : Expected) (c : Char) : Except Fault State :=
  if c = 'n' then .ok (.literal .null ['u', 'l', 'l'] (.refused expected))
  else if c = 't' then .ok (.literal .yes ['r', 'u', 'e'] (.refused expected))
  else if c = 'f' then .ok (.literal .no ['a', 'l', 's', 'e'] (.refused expected))
  else if c = '"' then .ok (.string (.start true) (.refused expected))
  else if c = '[' then .error (.wrongType .list expected)
  else if c = '\x7b' then .error (.wrongType .object expected)
  else .error .expectedValue

/-- The first character of a number; another value is refused. -/
def beginNumber (use : NumberUse) (otherwise : Char → Except Fault State) (c : Char) :
    Except Fault State :=
  if c = '-' then .ok (.number (.signed true) use)
  else
    match (NumberScan.signed false).step c with
    | .more n => .ok (.number n use)
    | _ => otherwise c

/-- The first character of a value that is not wanted. -/
def beginRefused (expected : Expected) (c : Char) : Except Fault State :=
  beginNumber (.refused expected) (refuse expected) c

/-- The first character of a value that is skipped. -/
def beginSkipped (outer : List Bracket) (owner : Owner) (c : Char) : Except Fault State :=
  if c = 'n' then .ok (.literal .null ['u', 'l', 'l'] (.skipped outer owner))
  else if c = 't' then .ok (.literal .yes ['r', 'u', 'e'] (.skipped outer owner))
  else if c = 'f' then .ok (.literal .no ['a', 'l', 's', 'e'] (.skipped outer owner))
  else if c = '"' then .ok (.string (.start false) (.skipped outer owner))
  else if c = '[' then .ok (.inside .first (.skipped .list outer owner))
  else if c = '\x7b' then .ok (.inside .first (.skipped .object outer owner))
  else beginNumber (.skipped outer owner) (fun _ => .error .expectedValue) c

/-- The first character of a value that must come next. -/
def Wanted.start (wanted : Wanted) (c : Char) : Except Fault State :=
  match wanted with
  | file =>
    if c = '\x7b' then .ok (.inside .first (.file (.start .named)))
    else if c = '[' then .ok (.inside .first (.file (.start .listed)))
    else beginRefused .file c
  | rows f => beginNumber (.rows f) (refuse .dimension) c
  | cols f => beginNumber (.cols f) (refuse .dimension) c
  | cells f =>
    if c = '[' then .ok (.inside .first (.cells ⟨f, #[]⟩)) else beginRefused .list c
  | row m => if c = '[' then .ok (.inside .first (.row ⟨m, #[]⟩)) else beginRefused .list c
  | cell r =>
    if c = 'n' then .ok (.literal .null ['u', 'l', 'l'] (.emptyCell r))
    else if c = '\x7b' then .ok (.inside .first (.token (.start r .named)))
    else if c = '[' then .ok (.inside .first (.token (.start r .listed)))
    else beginRefused .token c
  | kind t =>
    if c = '\x7b' then .ok (.kindOpen t)
    else if c = '"' then .ok (.string (.start true) (.kind t))
    else .error .expectedValue
  | unit t k =>
    if c = 'n' then .ok (.literal .null ['u', 'l', 'l'] (.unit t k)) else beginRefused .unit c
  | param t => beginNumber (.param t) (refuse .param) c
  | skipped outer owner => beginSkipped outer owner c

/-! ## Between two brackets -/

/-- The beginning of a name in an object. -/
def Container.beginKey : Container → State
  | file f => .string (.start true) (.fileKey f)
  | token t => .string (.start true) (.tokenKey t)
  | skipped innermost outer owner => .string (.start false) (.skippedKey (innermost :: outer) owner)
  | cells m => .value (.row m)
  | row r => .value (.cell r)

/-- A character between the brackets of an object, where it is no space. -/
def Container.feedObject (c : Container) (gap : Gap) (ch : Char) : Except Fault State :=
  match gap with
  | .first =>
    if ch = '"' then .ok c.beginKey
    else if ch = '\x7d' then c.close
    else .error .keyNotString
  | .afterItem =>
    if ch = ',' then .ok (.inside .afterComma c)
    else if ch = '\x7d' then c.close
    else .error .expectedCommaOrBrace
  | .afterComma =>
    if ch = '"' then .ok c.beginKey
    else if ch = '\x7d' ∧ !c.isSkipped then .error .trailingComma
    else .error .keyNotString

/-- A character between the brackets of a list, where it is no space. -/
def Container.feedList (c : Container) (gap : Gap) (ch : Char) : Except Fault State :=
  match gap, c.item? with
  | .first, item => if ch = ']' then c.close else
    match item with
    | some wanted => wanted.start ch
    | none => .error .trailingCharacters
  | .afterItem, item =>
    if ch = ',' then .ok (.inside .afterComma c)
    else if ch = ']' then c.close
    else if item.isSome then .error .expectedCommaOrBracket
    else .error .trailingCharacters
  | .afterComma, item =>
    if ch = ']' ∧ !c.isSkipped then .error .trailingComma
    else
      match item with
      | some wanted => wanted.start ch
      | none => .error .trailingCharacters

/-- A character between two brackets. -/
def Container.feed (c : Container) (gap : Gap) (ch : Char) : Except Fault State :=
  if isSpace ch then .ok (.inside gap c)
  else if c.isObject then c.feedObject gap ch
  else c.feedList gap ch

/-! ## The end of a value -/

/-- What a complete literal gives. -/
def LiteralUse.accept (use : LiteralUse) (which : Literal) : Except Fault State :=
  match use with
  | emptyCell r => .ok (.inside .afterItem (.row (r.push none)))
  | unit t kind => .ok (.kindClose t kind)
  | skipped outer owner => .ok (.inside .afterItem (resume outer owner))
  | refused expected =>
    let found := match which with
      | .null => .null
      | .yes => .boolean true
      | .no => .boolean false
    .error (.wrongType found expected)

/-- A number that must lie below a limit. -/
def bounded (limit : Nat) (expected : Expected) : Number → Except Fault Nat
  | .integer (.ofNat n) =>
    if n < limit then .ok n else .error (.wrongValue n expected)
  | .integer (.negSucc n) => .error (.wrongValue (.negSucc n) expected)
  | .real negative size => .error (.wrongType (Number.real negative size).found expected)

/-- What a complete number gives: the brackets that it stands between, with its value in them. -/
def NumberUse.accept (use : NumberUse) (n : NumberScan) : Except Fault Container :=
  match use with
  | rows f => do
    let value ← bounded (Nat.pow 2 64) .dimension (← n.value)
    return .file { f with rows := some value }
  | cols f => do
    let value ← bounded (Nat.pow 2 64) .dimension (← n.value)
    return .file { f with cols := some value }
  | param t => do
    let value ← bounded (Nat.pow 2 8) .param (← n.value)
    return .token { t with param := some value }
  | skipped outer owner => .ok (resume outer owner)
  | refused expected => do
    .error (.wrongType (← n.value).found expected)

/-- What a complete string gives. -/
def StringUse.accept (use : StringUse) (text : String) : Except Fault State :=
  match use with
  | fileKey f => (f.key text).map .colon
  | tokenKey t => (t.key text).map .colon
  | kind t =>
    match Kind.ofKey? text with
    | some k => .ok (.inside .afterItem (.token { t with kind := some k }))
    | none => .error (.unknownKind text)
  | kindKey t =>
    match Kind.ofKey? text with
    | some k => .ok (.colon (.unit t k))
    | none => .error (.unknownKind text)
  | skippedKey outer owner => .ok (.colon (.skipped outer owner))
  | skipped outer owner => .ok (.inside .afterItem (resume outer owner))
  | refused expected => .error (.wrongType (.string text) expected)

/-! ## The reader -/

namespace State

/-- The step of the reader for one character. -/
def feed (state : State) (c : Char) : Except Fault State :=
  match state with
  | value wanted => if isSpace c then .ok state else wanted.start c
  | inside gap container => container.feed gap c
  | colon wanted =>
    if isSpace c then .ok state
    else if c = ':' then .ok (.value wanted)
    else .error .expectedColon
  | literal which left use =>
    match left with
    | [] => .error .expectedLiteral
    | [last] => if c = last then use.accept which else .error .expectedLiteral
    | next :: rest => if c = next then .ok (.literal which rest use) else .error .expectedLiteral
  | number n use =>
    match n.step c with
    | .more n => .ok (.number n use)
    | .fault => .error .malformedNumber
    | .stop => (use.accept n).bind fun container => container.feed .afterItem c
  | string s use =>
    (s.step c).bind fun
      | .more s => .ok (.string s use)
      | .close text => use.accept text
  | kindOpen t =>
    if isSpace c then .ok state
    else if c = '"' then .ok (.string (.start true) (.kindKey t))
    else if c = '\x7d' then .error .expectedValue
    else .error .keyNotString
  | kindClose t kind =>
    if isSpace c then .ok state
    else if c = '\x7d' then .ok (.inside .afterItem (.token { t with kind := some kind }))
    else .error .expectedValue
  | done _ => if isSpace c then .ok state else .error .trailingCharacters

/-- What a text ends in the middle of when it ends between two brackets. -/
def unfinishedInside (gap : Gap) (c : Container) : Fault :=
  match gap with
  | .first | .afterItem => .unfinished (if c.isObject then .object else .list)
  | .afterComma =>
    if c.isObject then .unfinished (if c.isSkipped then .object else .value)
    else if c.item?.isSome then .unfinished .value
    else .trailingCharacters

/-- What is wrong when the text ends in the middle of a number. -/
def unfinishedNumber (n : NumberScan) (use : NumberUse) : Fault :=
  if n.complete then
    match use.accept n with
    | .ok container => unfinishedInside .afterItem container
    | .error fault => fault
  else
    match use with
    | .skipped .. => .malformedNumber
    | _ => .unfinished .value

/-- The answer at the end of the text. -/
def finish : State → Except Fault BoardFile
  | value _ => .error (.unfinished .value)
  | inside gap c => .error (unfinishedInside gap c)
  | colon _ => .error (.unfinished .object)
  | literal .. => .error (.unfinished .value)
  | number n use => .error (unfinishedNumber n use)
  | string .. => .error (.unfinished .string)
  | kindOpen _ => .error (.unfinished .object)
  | kindClose .. => .error (.unfinished .object)
  | done file => .ok file

/-- The state behind some characters. -/
def feedAll (state : State) (cs : List Char) : Except Fault State :=
  cs.foldlM feed state

theorem feedAll_append (state : State) (xs ys : List Char) :
    state.feedAll (xs ++ ys) = (state.feedAll xs).bind fun state => state.feedAll ys := by
  simp [feedAll, List.foldlM_append]
  rfl

end State

/-- The content of a board file with the given text. -/
def read (text : String) : Except Fault BoardFile :=
  (State.start.feedAll text.toList).bind State.finish

end Tileboard.BoardFile
