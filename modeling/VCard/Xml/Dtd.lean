import VCard.Xml.Entity
import VCard.Xml.Declaration
/-! The prolog of a document: what comes before the root element.

The prolog holds blanks, comments and processing instructions, at its very
start an XML declaration, and at most one document type declaration. That
declaration names the root, may point to an external subset (which is never
read) and may hold an internal subset of markup declarations: entities,
attribute lists, element types and notations. The reader follows the grammar
of these declarations token by token through the stages of `Stage`; a token
the grammar does not allow is a syntax error where the token starts.

What the rest of the document needs from the prolog is collected in `Dtd`:
the general entities declared, the attributes declared for element types (with
their defaults), and what decides whether a reference to an undeclared entity
is a fault. Declarations may lie outside the document when
there is an external subset or a parameter entity reference; parameter
entities are never expanded, and after a reference to one the declarations
that follow are skipped, unless the document stands alone. -/
namespace VCard.Xml

/-- An attribute declared for an element type: whether its type is `CDATA`,
and its default value, normalized, if it has one. -/
structure AttributeDecl where
  element : String
  name : String
  cdata : Bool
  value : Option String

/-- What the prolog declares that the rest of the document needs. -/
structure Dtd where
  /-- General entities, in the order declared; the first declaration of a name
  is the one that counts. -/
  entities : Entities := []
  /-- Attributes declared, in order. A declaration with a default, or of type
  `ID`, does not count when the attribute is already declared for the element
  type; one without counts all the same, but only the first declaration of an
  attribute gives its type. -/
  attributes : List AttributeDecl := []
  /-- Whether declarations may lie outside the document: an external subset or
  a parameter entity reference. -/
  externalMarkup : Bool := false
  /-- Whether the XML declaration says the document stands alone. -/
  standalone : Bool := false
  /-- Whether declarations are still being read. -/
  reading : Bool := true

/-- The general entity of a name. -/
def Dtd.entity? (d : Dtd) (name : String) : Option EntityValue := entityOf? d.entities name

/-- Whether a reference to an undeclared entity is a fault: always, unless
declarations may lie outside a document that does not stand alone. -/
def Dtd.checksEntities (d : Dtd) : Bool := !d.externalMarkup || d.standalone

/-- What a token does besides moving the reader on. -/
inductive Role where
  | none
  | xmlDeclaration (body : List Char) (offset : Nat)
  | doctypePublicId (text : List Char) (offset : Nat)
  | doctypeSystemId
  | generalEntityName (name : String)
  | paramEntityName
  | entityValue (text : List Char) (offset : Nat)
  | entityPublicId (text : List Char) (offset : Nat)
  | entitySystemId
  | entityNotation
  | notationPublicId (text : List Char) (offset : Nat)
  | paramRef
  | attlistElement (name : String)
  | attributeName (name : String)
  /-- The declared type: `CDATA` or not, `ID` or not. -/
  | attributeType (cdata isId : Bool)
  /-- `#IMPLIED` or `#REQUIRED`. -/
  | attributeNoDefault
  | attributeDefault (text : List Char) (offset : Nat)

/-- Where the reader stands in the prolog. The stages of an element type
declaration inside parentheses keep, for each open group, the connector used
so far in it (a blank before the first). -/
inductive Stage where
  | start
  | misc
  | afterDoctype
  | doctypeName
  | doctypeAfterName
  | doctypePublicId
  | doctypeSystemId
  | doctypeAfterId
  | doctypeAfterSubset
  | subset
  | entityName
  | paramEntityName
  | entityValue (param : Bool)
  | entityPublicId (param : Bool)
  | entitySystemId (param : Bool)
  | entityAfterId (param : Bool)
  | entityNotation
  | notationName
  | notationAfterName
  | notationPublicId
  | notationSystemId
  | notationAfterPublicId
  | attlistElement
  | attlistName
  | attlistType
  | attlistEnumValue
  | attlistEnumNext
  | attlistNotationOpen
  | attlistNotationValue
  | attlistNotationNext
  | attlistDefault
  | attlistFixed
  | elementName
  | elementContent
  | elementGroupStart
  | elementMixed
  | elementMixedName
  | elementMixedNext
  | elementParticle (groups : List Char)
  | elementAfterParticle (groups : List Char)
  | declarationEnd

/-- The attribute types named by a keyword. -/
def attributeTypes : List String := ["CDATA", "ID", "IDREF", "IDREFS", "ENTITY", "ENTITIES", "NMTOKEN", "NMTOKENS"]

/-- Joins the next particle of the innermost group with a connector: a group
uses one connector throughout. -/
def connectGroup (groups : List Char) (connector : Char) : Option (Stage × Role) :=
  match groups with
  | g :: rest =>
    if g != ' ' && g != connector then none else some (.elementParticle (connector :: rest), .none)
  | [] => none

/-- The stage after a token and what the token does, or none when the grammar
does not allow the token here. -/
def Stage.step : Stage → PrologToken → Option (Stage × Role)
  | .start, .blank => some (.misc, .none)
  | s, .blank => some (s, .none)
  | .start, .declaration body offset => some (.misc, .xmlDeclaration body offset)
  | .start, .instruction | .start, .comment => some (.misc, .none)
  | .misc, .instruction | .misc, .comment => some (.misc, .none)
  | .afterDoctype, .instruction | .afterDoctype, .comment => some (.afterDoctype, .none)
  | .start, .declOpen "DOCTYPE" | .misc, .declOpen "DOCTYPE" => some (.doctypeName, .none)
  | .doctypeName, .name _ | .doctypeName, .prefixedName _ => some (.doctypeAfterName, .none)
  | .doctypeAfterName, .openBracket | .doctypeAfterId, .openBracket => some (.subset, .none)
  | .doctypeAfterName, .declClose | .doctypeAfterId, .declClose | .doctypeAfterSubset, .declClose =>
    some (.afterDoctype, .none)
  | .doctypeAfterName, .name "SYSTEM" => some (.doctypeSystemId, .none)
  | .doctypeAfterName, .name "PUBLIC" => some (.doctypePublicId, .none)
  | .doctypePublicId, .literal text offset => some (.doctypeSystemId, .doctypePublicId text offset)
  | .doctypeSystemId, .literal _ _ => some (.doctypeAfterId, .doctypeSystemId)
  | .subset, .declOpen "ENTITY" => some (.entityName, .none)
  | .subset, .declOpen "ATTLIST" => some (.attlistElement, .none)
  | .subset, .declOpen "ELEMENT" => some (.elementName, .none)
  | .subset, .declOpen "NOTATION" => some (.notationName, .none)
  | .subset, .instruction | .subset, .comment => some (.subset, .none)
  | .subset, .paramRef => some (.subset, .paramRef)
  | .subset, .closeBracket => some (.doctypeAfterSubset, .none)
  | .entityName, .percent => some (.paramEntityName, .none)
  | .entityName, .name n => some (.entityValue false, .generalEntityName n)
  | .paramEntityName, .name _ => some (.entityValue true, .paramEntityName)
  | .entityValue p, .name "SYSTEM" => some (.entitySystemId p, .none)
  | .entityValue p, .name "PUBLIC" => some (.entityPublicId p, .none)
  | .entityValue _, .literal text offset => some (.declarationEnd, .entityValue text offset)
  | .entityPublicId p, .literal text offset => some (.entitySystemId p, .entityPublicId text offset)
  | .entitySystemId p, .literal _ _ => some (.entityAfterId p, .entitySystemId)
  | .entityAfterId _, .declClose => some (.subset, .none)
  | .entityAfterId false, .name "NDATA" => some (.entityNotation, .none)
  | .entityNotation, .name _ => some (.declarationEnd, .entityNotation)
  | .notationName, .name _ => some (.notationAfterName, .none)
  | .notationAfterName, .name "SYSTEM" => some (.notationSystemId, .none)
  | .notationAfterName, .name "PUBLIC" => some (.notationPublicId, .none)
  | .notationPublicId, .literal text offset => some (.notationAfterPublicId, .notationPublicId text offset)
  | .notationSystemId, .literal _ _ | .notationAfterPublicId, .literal _ _ => some (.declarationEnd, .none)
  | .notationAfterPublicId, .declClose => some (.subset, .none)
  | .attlistElement, .name n | .attlistElement, .prefixedName n => some (.attlistName, .attlistElement n)
  | .attlistName, .declClose => some (.subset, .none)
  | .attlistName, .name n | .attlistName, .prefixedName n => some (.attlistType, .attributeName n)
  | .attlistType, .name "NOTATION" => some (.attlistNotationOpen, .none)
  | .attlistType, .name t =>
    if attributeTypes.contains t then some (.attlistDefault, .attributeType (t == "CDATA") (t == "ID")) else none
  | .attlistType, .openParen => some (.attlistEnumValue, .none)
  | .attlistEnumValue, .nmtoken | .attlistEnumValue, .name _ | .attlistEnumValue, .prefixedName _ =>
    some (.attlistEnumNext, .none)
  | .attlistEnumNext, .closeParen none => some (.attlistDefault, .none)
  | .attlistEnumNext, .choice => some (.attlistEnumValue, .none)
  | .attlistNotationOpen, .openParen => some (.attlistNotationValue, .none)
  | .attlistNotationValue, .name _ => some (.attlistNotationNext, .none)
  | .attlistNotationNext, .closeParen none => some (.attlistDefault, .none)
  | .attlistNotationNext, .choice => some (.attlistNotationValue, .none)
  | .attlistDefault, .poundName "IMPLIED" | .attlistDefault, .poundName "REQUIRED" =>
    some (.attlistName, .attributeNoDefault)
  | .attlistDefault, .poundName "FIXED" => some (.attlistFixed, .none)
  | .attlistDefault, .literal text offset | .attlistFixed, .literal text offset =>
    some (.attlistName, .attributeDefault text offset)
  | .elementName, .name _ | .elementName, .prefixedName _ => some (.elementContent, .none)
  | .elementContent, .name "EMPTY" | .elementContent, .name "ANY" => some (.declarationEnd, .none)
  | .elementContent, .openParen => some (.elementGroupStart, .none)
  | .elementGroupStart, .poundName "PCDATA" => some (.elementMixed, .none)
  | .elementGroupStart, .openParen => some (.elementParticle [' ', ' '], .none)
  | .elementGroupStart, .name _ | .elementGroupStart, .prefixedName _ | .elementGroupStart, .repeatedName =>
    some (.elementAfterParticle [' '], .none)
  | .elementMixed, .closeParen none | .elementMixed, .closeParen (some '*') => some (.declarationEnd, .none)
  | .elementMixed, .choice | .elementMixedNext, .choice => some (.elementMixedName, .none)
  | .elementMixedName, .name _ | .elementMixedName, .prefixedName _ => some (.elementMixedNext, .none)
  | .elementMixedNext, .closeParen (some '*') => some (.declarationEnd, .none)
  | .elementParticle gs, .openParen => some (.elementParticle (' ' :: gs), .none)
  | .elementParticle gs, .name _ | .elementParticle gs, .prefixedName _ | .elementParticle gs, .repeatedName =>
    some (.elementAfterParticle gs, .none)
  | .elementAfterParticle gs, .closeParen _ =>
    match gs with
    | _ :: g :: rest => some (.elementAfterParticle (g :: rest), .none)
    | _ => some (.declarationEnd, .none)
  | .elementAfterParticle gs, .comma => connectGroup gs ','
  | .elementAfterParticle gs, .choice => connectGroup gs '|'
  | .declarationEnd, .declClose => some (.subset, .none)
  | _, _ => none

/-- The fault of a token the grammar does not allow. -/
def roleFault : PrologToken → String
  | .paramRef => "illegal parameter entity reference"
  | .declaration _ _ => "XML or text declaration not at start of entity"
  | _ => "syntax error"

/-- The replacement text of an entity value literal whose text starts at
`pos`: character references are replaced and line ends become line feeds,
while entity references are kept for when the entity is used. A parameter
entity reference is refused, as the internal subset allows them only between
declarations. -/
def entityText : Nat → List Char → Nat → Except ParseFailure (List Char)
  | 0, _, _ => .ok []
  | _, [], _ => .ok []
  | fuel + 1, c :: r, pos =>
    if c == '%' then
      match scanPercent r (pos + 1) with
      | .token .paramRef _ => fail "illegal parameter entity reference" pos
      | .token _ next => invalidToken next
      | .invalid p => invalidToken p
      | _ => invalidToken pos
    else if c == '&' then
      match scanReference r (pos + 1) with
      | .ends (.entity name) next =>
        (fun rest => '&' :: name.toList ++ ';' :: rest) <$> entityText fuel (r.drop (next - pos - 1)) next
      | .ends (.char n) next =>
        match referencedChar n with
        | some ch => (ch :: ·) <$> entityText fuel (r.drop (next - pos - 1)) next
        | none => fail "reference to invalid character number" pos
      | .breaks p => invalidToken p
      | .incomplete => invalidToken pos
    else if c == '\r' then
      match r with
      | '\n' :: r2 => ('\n' :: ·) <$> entityText fuel r2 (pos + 2)
      | _ => ('\n' :: ·) <$> entityText fuel r (pos + 1)
    else (c :: ·) <$> entityText fuel r (pos + 1)

/-- Checks the text of a public identifier literal that starts at `offset`. -/
def checkPublicId (text : List Char) (offset : Nat) : Except ParseFailure Unit :=
  match text.findIdx? (!isPublicIdChar ·) with
  | some i => fail "illegal character(s) in public id" (offset + i)
  | none => .ok ()

/-- The state of reading the prolog: the stage, what has been declared, the
general entity being declared (when its declaration counts), and the attribute
being declared. -/
structure PrologReader where
  stage : Stage := .start
  dtd : Dtd := {}
  declaring : Option String := none
  attElement : String := ""
  attName : String := ""
  attCdata : Bool := false
  attId : Bool := false

/-- Adds an attribute declaration, unless it has a default or is of type `ID`
and the attribute is already declared for the element type. -/
def Dtd.declareAttribute (d : Dtd) (a : AttributeDecl) (isId : Bool) : Dtd :=
  let known := d.attributes.any fun b => b.element == a.element && b.name == a.name
  if (a.value.isSome || isId) && known then d else { d with attributes := d.attributes ++ [a] }

/-- Does what a token's role asks. -/
def PrologReader.perform (st : PrologReader) (role : Role) : Except ParseFailure PrologReader :=
  let dtd := st.dtd
  match role with
  | .none => .ok st
  | .xmlDeclaration body offset =>
    match checkDeclaration body offset with
    | .error p => fail "XML declaration not well-formed" p
    | .ok standalone => .ok { st with dtd := { dtd with standalone } }
  | .doctypePublicId text offset => do
    checkPublicId text offset
    .ok { st with dtd := { dtd with externalMarkup := true } }
  | .doctypeSystemId => .ok { st with dtd := { dtd with externalMarkup := true } }
  | .generalEntityName name =>
    let counts := dtd.reading && (predefinedEntity name).isNone && (dtd.entity? name).isNone
    .ok { st with declaring := if counts then some name else none }
  | .paramEntityName => .ok { st with declaring := none }
  | .entityValue text offset =>
    if !dtd.reading then .ok st
    else do
      let value ← entityText (text.length + 1) text offset
      match st.declaring with
      | some name => .ok { st with dtd := { dtd with entities := dtd.entities ++ [(name, .internal value)] } }
      | none => .ok st
  | .entityPublicId text offset => do
    checkPublicId text offset
    .ok st
  | .entitySystemId =>
    match st.declaring with
    | some name =>
      if dtd.reading then .ok { st with dtd := { dtd with entities := dtd.entities ++ [(name, .external)] } }
      else .ok st
    | none => .ok st
  | .entityNotation =>
    match st.declaring with
    | some name =>
      let mark (e : String × EntityValue) : String × EntityValue := if e.1 == name then (name, .unparsed) else e
      if dtd.reading then .ok { st with dtd := { dtd with entities := dtd.entities.map mark } } else .ok st
    | none => .ok st
  | .notationPublicId text offset => do
    checkPublicId text offset
    .ok st
  | .paramRef => .ok { st with dtd := { dtd with externalMarkup := true, reading := dtd.standalone } }
  | .attlistElement name => .ok { st with attElement := name }
  | .attributeName name => .ok { st with attName := name, attCdata := false, attId := false }
  | .attributeType cdata isId => .ok { st with attCdata := cdata, attId := isId }
  | .attributeNoDefault =>
    if !dtd.reading then .ok st
    else .ok { st with dtd := dtd.declareAttribute ⟨st.attElement, st.attName, st.attCdata, none⟩ st.attId }
  | .attributeDefault text offset =>
    if !dtd.reading then .ok st
    else
      let reader : ValueReader := ⟨dtd.entities, dtd.checksEntities, st.attCdata, .free⟩
      match normalizeValue reader (some offset) text {} with
      | .error (m, p) => fail m (p.getD (offset - 1))
      | .ok (value, _) =>
        .ok { st with dtd := dtd.declareAttribute ⟨st.attElement, st.attName, st.attCdata, some value⟩ false }

/-- Reads the prolog from `pos` up to the start tag of the root element: what
it declares, and the text from that start tag on with its offset. -/
def readProlog : Nat → List Char → Nat → PrologReader → Except ParseFailure (Dtd × List Char × Nat)
  | 0, _, pos, _ => fail "no element found" pos
  | fuel + 1, cs, pos, st =>
    match prologToken cs pos with
    | .finished => fail "no element found" pos
    | .incomplete => unclosedToken pos
    | .invalid p => invalidToken p
    | .token .instanceStart _ =>
      match st.stage with
      | .start | .misc | .afterDoctype => .ok (st.dtd, cs, pos)
      | _ => fail "syntax error" pos
    | .token t next =>
      match st.stage.step t with
      | none => fail (roleFault t) pos
      | some (stage, role) => do
        let st ← PrologReader.perform { st with stage } role
        readProlog fuel (cs.drop (next - pos)) next st

end VCard.Xml
