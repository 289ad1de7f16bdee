import Concordance.Html.Rules.Body

/-!
Rules for tables and selections.
-/
namespace Concordance.Html.Builder

/-- Reads a token as in the body, with everything new placed before the table. -/
def fostered (b : Builder) (token : Token) : Progress :=
  match { b with fostering := true }.inBody token with
  | .done b => .done { b with fostering := false }
  | .again b token => .again { b with fostering := false } token

/-- A character directly in a table. Its place depends on what else comes up to the next tag. -/
def charInTable (b : Builder) (token : Token) : Progress :=
  if b.currentCell.isAmong ["table", "tbody", "tfoot", "thead", "tr"] then
    { b with home := b.mode }.again .inTableText token
  else b.fostered token

/-- Places the text that has come directly in a table: before it, unless all of it is blank. -/
def flushTableText (b : Builder) : Builder :=
  let text := b.tableText.reverse
  let b := { b with tableText := [], mode := b.home }
  if text.all isSpace then text.foldl addChar b
  else { text.foldl charInBody { b with fostering := true } with fostering := false }

def inTableText (b : Builder) (token : Token) : Progress :=
  match token with
  | .char c => { b with tableText := c :: b.tableText }.done
  | .null => b.done
  | _ => .again b.flushTableText token

/-- Leaves what is open in a table, without the table. -/
def popToTable (b : Builder) : Builder :=
  b.popTo (·.isAmong ["table", "template", "html"])

def popToRowGroup (b : Builder) : Builder :=
  b.popTo (·.isAmong ["tbody", "tfoot", "thead", "template", "html"])

def popToRow (b : Builder) : Builder :=
  b.popTo (·.isAmong ["tr", "template", "html"])

def closeCell (b : Builder) : Builder :=
  (b.popThrough (·.isAmong ["td", "th"])).clearToMarker

def inTableScope (b : Builder) (name : String) : Bool :=
  b.namedInScope Cell.boundsTable name

def startInTable (b : Builder) (t : Tag) : Progress :=
  let token := Token.tag t
  match t.name with
  | "caption" => ((b.popToTable.pushMarker.openTag t).inMode .inCaption).done
  | "colgroup" => ((b.popToTable.openTag t).inMode .inColumnGroup).done
  | "col" => (b.popToTable.openNamed "colgroup").again .inColumnGroup token
  | "tbody" | "tfoot" | "thead" => ((b.popToTable.openTag t).inMode .inTableBody).done
  | "td" | "th" | "tr" => (b.popToTable.openNamed "tbody").again .inTableBody token
  | "table" => if b.inTableScope "table" then .again (b.popThroughNamed "table").reset token else b.done
  | "style" | "script" | "template" => ((b.headTag? t).getD b).done
  | "input" => if isHidden t then (b.insertTag t).done else b.fostered token
  | "form" =>
    if b.form.isNone && !b.isOpen "template" then
      let (b, id) := b.insertIn .html t
      { b with form := some id }.done
    else b.done
  | _ => b.fostered token

def inTable (b : Builder) (token : Token) : Progress :=
  match token with
  | .char _ | .null => b.charInTable token
  | .tag t =>
    if !t.isEnd then b.startInTable t
    else if t.name = "table" then
      (if b.inTableScope "table" then (b.popThroughNamed "table").reset else b).done
    else if t.name = "template" then b.closeTemplate.done
    else if t.name = "body" || t.name = "html" || tablePartNames.contains t.name then b.done
    else b.fostered token
  | _ => b.done

def inCaption (b : Builder) (token : Token) : Progress :=
  match token with
  | .tag t =>
    if (if t.isEnd then t.name = "table" || t.name = "caption" else tablePartNames.contains t.name) then
      if b.inTableScope "caption" then
        let b := ((b.popThroughNamed "caption").clearToMarker).inMode .inTable
        if t.isEnd && t.name = "caption" then b.done else .again b token
      else b.done
    else if t.isEnd && (t.name = "body" || t.name = "html" || tablePartNames.contains t.name) then b.done
    else b.inBody token
  | _ => b.inBody token

def inColumnGroup (b : Builder) (token : Token) : Progress :=
  let otherwise := if b.currentIs "colgroup" then b.pop.again .inTable token else b.done
  match token with
  | .char c => if isSpace c then (b.addChar c).done else otherwise
  | .tag t =>
    match t.isEnd, t.name with
    | false, "html" => b.done
    | false, "col" => (b.insertTag t).done
    | false, "template" => (b.openTemplate t).done
    | true, "colgroup" => if b.currentIs "colgroup" then (b.pop.inMode .inTable).done else b.done
    | true, "col" => b.done
    | true, "template" => b.closeTemplate.done
    | _, _ => otherwise
  | .finish => b.done
  | _ => otherwise

def inTableBody (b : Builder) (token : Token) : Progress :=
  match token with
  | .tag t =>
    let groups := ["tbody", "tfoot", "thead"]
    if !t.isEnd && t.name = "tr" then ((b.popToRowGroup.openTag t).inMode .inRow).done
    else if !t.isEnd && (t.name = "th" || t.name = "td") then
      (b.popToRowGroup.openNamed "tr").again .inRow token
    else if t.isEnd && groups.contains t.name then
      if b.inTableScope t.name then (b.popToRowGroup.pop.inMode .inTable).done else b.done
    else if (if t.isEnd then t.name = "table" else ["caption", "col", "colgroup"].contains t.name || groups.contains t.name) then
      if b.inScope Cell.boundsTable (fun id => (b.cell id).isAmong ["table", "tbody", "tfoot"]) then
        b.popToRowGroup.pop.again .inTable token
      else b.done
    else if t.isEnd && (t.name = "body" || t.name = "html" || tablePartNames.contains t.name) then b.done
    else b.inTable token
  | _ => b.inTable token

def inRow (b : Builder) (token : Token) : Progress :=
  match token with
  | .tag t =>
    let leave := b.popToRow.pop
    let leaveAgain := if b.inTableScope "tr" then leave.again .inTableBody token else b.done
    if !t.isEnd then
      if t.name = "th" || t.name = "td" then (((b.popToRow.openTag t).inMode .inCell).pushMarker).done
      else if tablePartNames.contains t.name then leaveAgain
      else b.inTable token
    else match t.name with
      | "tr" => if b.inTableScope "tr" then (leave.inMode .inTableBody).done else b.done
      | "table" => leaveAgain
      | "tbody" | "tfoot" | "thead" => if b.inTableScope t.name then leaveAgain else b.done
      | "body" | "caption" | "col" | "colgroup" | "html" | "td" | "th" => b.done
      | _ => b.inTable token
  | _ => b.inTable token

def inCell (b : Builder) (token : Token) : Progress :=
  match token with
  | .tag t =>
    if !t.isEnd then
      if tablePartNames.contains t.name then
        if b.inScope Cell.boundsTable (fun id => (b.cell id).isAmong ["td", "th"]) then
          b.closeCell.again .inRow token
        else b.done
      else b.inBody token
    else match t.name with
      | "td" | "th" =>
        if b.inTableScope t.name then (((b.popThroughNamed t.name).clearToMarker).inMode .inRow).done
        else b.done
      | "body" | "caption" | "col" | "colgroup" | "html" => b.done
      | "table" | "tbody" | "tfoot" | "thead" | "tr" =>
        if b.inTableScope t.name then b.closeCell.again .inRow token else b.done
      | _ => b.inBody token
  | _ => b.inBody token

def closeSelect (b : Builder) : Builder :=
  (b.popThroughNamed "select").reset

def inSelect (b : Builder) (token : Token) : Progress :=
  let hasSelect := b.namedInScope Cell.boundsSelect "select"
  let leaveOption := if b.currentIs "option" then b.pop else b
  let leaveGroup := if leaveOption.currentIs "optgroup" then leaveOption.pop else leaveOption
  match token with
  | .char c => (b.addChar c).done
  | .tag t =>
    if t.name = "select" then (if hasSelect then b.closeSelect else b).done
    else match t.isEnd, t.name with
      | false, "option" => (leaveOption.openTag t).done
      | false, "optgroup" => (leaveGroup.openTag t).done
      | false, "hr" => (leaveGroup.insertTag t).done
      | false, "input" | false, "keygen" | false, "textarea" =>
        if hasSelect then .again b.closeSelect token else b.done
      | false, "script" | _, "template" => ((b.headTag? t).getD b).done
      | true, "option" => leaveOption.done
      | true, "optgroup" =>
        let b := if (b.cell (b.stack.getD 1 0)).isHtml "optgroup" then leaveOption else b
        (if b.currentIs "optgroup" then b.pop else b).done
      | _, _ => b.done
  | _ => b.done

def inSelectInTable (b : Builder) (token : Token) : Progress :=
  match token with
  | .tag t =>
    if ["caption", "table", "tbody", "tfoot", "thead", "tr", "td", "th"].contains t.name then
      if !t.isEnd || b.inTableScope t.name then .again b.closeSelect token else b.done
    else b.inSelect token
  | _ => b.inSelect token

end Concordance.Html.Builder
