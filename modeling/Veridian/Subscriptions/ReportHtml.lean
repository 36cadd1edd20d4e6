/-
The markup of a report mail.

`buildMjml` writes the report as MJML by hand, data in a template of literals.  It is
modelled in pieces, those of the template as the source has them and those of data: a text
where the source has a text, an `attr` where it stands between the quotes of a value.
Nothing is escaped.

`SafeReport` says of every string of the data what it must not have; no data introduce a
tag or an attribute exactly when all of it holds.  The arithmetic of the heat map and the
functions of the runtime are those of a `ReportHost`.
-/
import Veridian.Lib.Markup
import Veridian.Lib.Text

namespace Veridian.ReportGeneratorService

open Markup

/-! ### The data of a report -/

structure MetricSummary (R : Type) where
  label : String
  changePercent : R
  formatted : String
  trendClass : String
  trendPrefix : String

structure DimensionRow (R : Type) where
  value : String
  sessions : R
  sessionsEvo : Option R
  sessionsEvoClass : String
  metric : R
  metricEvo : Option R
  metricEvoClass : String
  formattedMetric : String

structure DimensionBreakdown (R : Type) where
  dimension : String
  label : String
  rows : List (DimensionRow R)

inductive FilterValue (R : Type) where
  | string (s : String)
  | number (n : R)
  | null

structure ReportFilter (R : Type) where
  dimensionLabel : String
  operator : String
  values : List (FilterValue R)

structure ReportWorkspace where
  name : String
  timezone : String
  website : Option String
  logoUrl : Option String

structure ReportData (R : Type) where
  workspace : ReportWorkspace
  dateRangeLabel : String
  metrics : List (MetricSummary R)
  dimensions : List (DimensionBreakdown R)
  filters : List (ReportFilter R)
  appUrl : String
  dashboardUrl : String
  unsubscribeUrl : String

/-- The colors of `getHeatMapColor`. -/
inductive HeatColor (R : Type) where
  | grey
  | belowReference (lightness : R)
  | cyan
  | aboveReference (hue lightness : R)

/-- The numbers and the functions of the runtime. -/
structure ReportHost (R : Type) where
  /-- `${n}` -/
  numeral : R → String
  numeral_plain : ∀ n, ∀ c ∈ (numeral n).toList, c ≠ '<' ∧ c ≠ '"'
  /-- `n > 0` -/
  positive : R → Bool
  /-- For the metric of a row and those of all rows. -/
  heatColor : R → List R → HeatColor R
  toLowerCase : String → String
  toLowerCase_quote : ∀ s, '"' ∈ (toLowerCase s).toList ↔ '"' ∈ s.toList
  encodeURIComponent : String → String
  encode_plain : ∀ s, '"' ∉ (encodeURIComponent s).toList
  /-- `s.charAt(0).toUpperCase()` -/
  initial : String → String
  initial_plain : ∀ s, initial s = "<" ∨ '<' ∉ (initial s).toList
  /-- `new URL(s).origin`, unless it throws. -/
  origin : String → Option String
  /-- What a record has from `Object.prototype`, as text. -/
  inherited : String → Option String
  inherited_plain : ∀ key v, inherited key = some v →
    '<' ∉ key.toList ∧ '<' ∉ v.toList ∧ '"' ∉ v.toList

/-! ### Icons -/

def BROWSER_ICONS : List (String × String) :=
  [("chrome", "chrome.svg"), ("firefox", "firefox.svg"), ("safari", "safari.svg"),
    ("edge", "edge.svg"), ("opera", "opera.svg"), ("brave", "brave.png"),
    ("samsung", "samsung.svg"), ("samsung browser", "samsung.svg"),
    ("samsung internet", "samsung.svg"), ("mobile safari", "safari.svg"),
    ("chrome mobile", "chrome.svg"), ("firefox mobile", "firefox.svg"),
    ("edge mobile", "edge.svg"), ("opera mobile", "opera.svg")]

def OS_ICONS : List (String × String) :=
  [("windows", "windows.svg"), ("mac os", "macos.svg"), ("macos", "macos.svg"),
    ("linux", "linux.svg"), ("ubuntu", "ubuntu.svg"), ("ios", "ios.svg"),
    ("ipados", "ios.svg"), ("android", "android.svg"), ("chrome os", "chromeos.svg")]

structure IconView where
  appUrl : String
  file : String

def faviconPieces (v : String) : List Piece :=
  [.markup "<img src=\"https://www.google.com/s2/favicons?domain=",
    .attr v,
    .markup "&sz=16\" alt=\"\" width=\"14\" height=\"14\" style=\"width: 14px; height: 14px; margin-right: 6px; vertical-align: middle; border-radius: 2px;\" />"]

def flagPieces (icon : IconView) : List Piece :=
  [.markup "<img src=\"",
    .attr icon.appUrl,
    .markup "/icons/flags/",
    .attr icon.file,
    .markup ".svg\" alt=\"\" width=\"16\" height=\"12\" style=\"width: 16px; height: 12px; margin-right: 6px; vertical-align: middle;\" />"]

def browserPieces (icon : IconView) : List Piece :=
  [.markup "<img src=\"",
    .attr icon.appUrl,
    .markup "/icons/browsers/",
    .attr icon.file,
    .markup "\" alt=\"\" width=\"14\" height=\"14\" style=\"width: 14px; height: 14px; margin-right: 6px; vertical-align: middle;\" />"]

def osPieces (icon : IconView) : List Piece :=
  [.markup "<img src=\"",
    .attr icon.appUrl,
    .markup "/icons/os/",
    .attr icon.file,
    .markup "\" alt=\"\" width=\"14\" height=\"14\" style=\"width: 14px; height: 14px; margin-right: 6px; vertical-align: middle;\" />"]

def devicePieces (icon : IconView) : List Piece :=
  [.markup "<img src=\"",
    .attr icon.appUrl,
    .markup "/icons/devices/",
    .attr icon.file,
    .markup "\" alt=\"\" width=\"14\" height=\"14\" style=\"width: 14px; height: 14px; margin-right: 6px; vertical-align: middle;\" />"]

section

variable {R : Type} (host : ReportHost R)

/-- `record[key]` -/
def recordGet (record : List (String × String)) (key : String) : Option String :=
  match record.lookup key with
  | some v => some v
  | none => host.inherited key

/-- The file of an exact match, else of the first partial one. -/
def iconFile (icons : List (String × String)) (lowerValue : String) : Option String :=
  match recordGet host icons lowerValue with
  | some file => some file
  | none =>
      (icons.find? fun entry =>
        Text.includes lowerValue entry.1 || Text.includes entry.1 lowerValue).map Prod.snd

def deviceFile (lowerValue : String) : String :=
  if Text.includes lowerValue "mobile" then "mobile.svg"
  else if Text.includes lowerValue "tablet" then "tablet.svg"
  else "desktop.svg"

def getDimensionIcon (dimension value appUrl : String) : List Piece :=
  let lowerValue := host.toLowerCase value
  if dimension = "referrer_domain" ∧ value ≠ "" then
    faviconPieces (host.encodeURIComponent value)
  else if dimension = "country" ∧ value ≠ "" then flagPieces ⟨appUrl, lowerValue⟩
  else if dimension = "browser" then
    match iconFile host BROWSER_ICONS lowerValue with
    | some file => browserPieces ⟨appUrl, file⟩
    | none => []
  else if dimension = "os" then
    match iconFile host OS_ICONS lowerValue with
    | some file => osPieces ⟨appUrl, file⟩
    | none => []
  else if dimension = "device" then devicePieces ⟨appUrl, deviceFile lowerValue⟩
  else []

end

/-! ### Dimensions -/

structure RowView where
  value : String
  sessions : String
  sessionsEvoColor : String
  sessionsEvoText : String
  heatColor : String
  formattedMetric : String
  metricEvoColor : String
  metricEvoText : String

/-- In front of the icon. -/
def rowStartPieces : List Piece :=
  [.markup "<tr>
                  <td style=\"padding: 6px 4px; border-bottom: 1px solid #f3f4f6; line-height: 1.3; color: #333333;\">"]

def rowEndPieces (row : RowView) : List Piece :=
  [.text row.value,
    .markup "</td>
                  <td style=\"padding: 6px 4px; border-bottom: 1px solid #f3f4f6; line-height: 1.3; text-align: right; color: #333333; width: 60px;\">",
    .text row.sessions,
    .markup "</td>
                  <td style=\"padding: 6px 4px; border-bottom: 1px solid #f3f4f6; line-height: 1.3; text-align: right; font-size: 10px; color: ",
    .attr row.sessionsEvoColor,
    .markup "; width: 50px;\">",
    .text row.sessionsEvoText,
    .markup "</td>
                  <td style=\"padding: 6px 4px; border-bottom: 1px solid #f3f4f6; line-height: 1.3; text-align: right; color: #333333; width: 70px;\"><span style=\"display: inline-block; width: 7px; height: 7px; border-radius: 50%; background-color: ",
    .attr row.heatColor,
    .markup "; margin-right: 6px; vertical-align: middle;\"></span>",
    .text row.formattedMetric,
    .markup "</td>
                  <td style=\"padding: 6px 4px; border-bottom: 1px solid #f3f4f6; line-height: 1.3; text-align: right; font-size: 10px; color: ",
    .attr row.metricEvoColor,
    .markup "; width: 50px;\">",
    .text row.metricEvoText,
    .markup "</td>
                </tr>"]

structure DimensionView where
  label : String
  col1Label : String
  col2Label : String

def dimensionStartPieces (dimension : DimensionView) : List Piece :=
  [.markup "
    <mj-wrapper padding-top=\"8px\">
      <mj-section background-color=\"#ffffff\" padding-top=\"10px\" padding-bottom=\"0px\">
        <mj-column>
          <mj-text font-size=\"13px\" font-weight=\"bold\">
            ",
    .text dimension.label,
    .markup "
          </mj-text>
        </mj-column>
      </mj-section>
      <mj-section background-color=\"#ffffff\" padding-top=\"8px\" padding-bottom=\"12px\" padding-left=\"12px\" padding-right=\"12px\">
        <mj-column>
          <mj-raw>
            <table style=\"width: 100%; border-collapse: collapse; font-family: Arial, sans-serif; font-size: 12px;\">
              <thead>
                <tr>
                  <th style=\"padding: 6px 4px; text-align: left; border-bottom: 2px solid #e5e7eb; font-size: 11px; color: #6b7280; line-height: 1.3;\">Name</th>
                  <th style=\"padding: 6px 4px; text-align: right; border-bottom: 2px solid #e5e7eb; font-size: 11px; color: #6b7280; line-height: 1.3; width: 60px;\">",
    .text dimension.col1Label,
    .markup "</th>
                  <th style=\"padding: 6px 4px; text-align: right; border-bottom: 2px solid #e5e7eb; font-size: 11px; color: #6b7280; line-height: 1.3; width: 50px;\"></th>
                  <th style=\"padding: 6px 4px; text-align: right; border-bottom: 2px solid #e5e7eb; font-size: 11px; color: #6b7280; line-height: 1.3; width: 70px;\">",
    .text dimension.col2Label,
    .markup "</th>
                  <th style=\"padding: 6px 4px; text-align: right; border-bottom: 2px solid #e5e7eb; font-size: 11px; color: #6b7280; line-height: 1.3; width: 50px;\"></th>
                </tr>
              </thead>
              <tbody>
                "]

def dimensionEndPieces : List Piece :=
  [.markup "
              </tbody>
            </table>
          </mj-raw>
        </mj-column>
      </mj-section>
    </mj-wrapper>"]

def evoColor (evoClass : String) : String :=
  if evoClass = "positive" then "#10b981"
  else if evoClass = "negative" then "#ef4444"
  else "#6b7280"

section

variable {R : Type} (host : ReportHost R)

def evoText : Option R → String
  | some evo => (if host.positive evo then "+" else "") ++ host.numeral evo ++ "%"
  | none => "-"

def heatColorText : HeatColor R → String
  | .grey => "#f5f5f5"
  | .belowReference lightness => "hsl(142, 70%, " ++ host.numeral lightness ++ "%)"
  | .cyan => "hsl(180, 70%, 50%)"
  | .aboveReference hue lightness =>
      "hsl(" ++ host.numeral hue ++ ", 70%, " ++ host.numeral lightness ++ "%)"

def rowView (rows : List (DimensionRow R)) (row : DimensionRow R) : RowView where
  value := row.value
  sessions := host.numeral row.sessions
  sessionsEvoColor := evoColor row.sessionsEvoClass
  sessionsEvoText := evoText host row.sessionsEvo
  heatColor := heatColorText host (host.heatColor row.metric (rows.map DimensionRow.metric))
  formattedMetric := row.formattedMetric
  metricEvoColor := evoColor row.metricEvoClass
  metricEvoText := evoText host row.metricEvo

def rowPieces (appUrl : String) (dim : DimensionBreakdown R) (row : DimensionRow R) : List Piece :=
  rowStartPieces ++ getDimensionIcon host dim.dimension row.value appUrl ++
    rowEndPieces (rowView host dim.rows row)

def dimensionView (dim : DimensionBreakdown R) : DimensionView where
  label := dim.label
  col1Label := if dim.dimension = "goal_name" then "Count" else "Visites uniques"
  col2Label := if dim.dimension = "goal_name" then "Value Sum" else "TimeScore"

def dimensionPieces (appUrl : String) (dim : DimensionBreakdown R) : List Piece :=
  dimensionStartPieces (dimensionView dim) ++
    joined "\n                " (dim.rows.map (rowPieces host appUrl dim)) ++
    dimensionEndPieces

end

/-! ### Metrics and filters -/

def headerPieces (v : String) : List Piece :=
  [.markup "<th>",
    .text v,
    .markup "</th>"]

def valuePieces (v : String) : List Piece :=
  [.markup "<td>",
    .text v,
    .markup "</td>"]

structure TrendView where
  trendClass : String
  change : String

def trendPieces (trend : TrendView) : List Piece :=
  [.markup "<td class=\"",
    .attr trend.trendClass,
    .markup "\">",
    .text trend.change,
    .markup "%</td>"]

def filtersPieces (v : String) : List Piece :=
  [.markup "
    <mj-section padding-top=\"0px\" padding-bottom=\"8px\" padding-left=\"12px\" padding-right=\"12px\">
      <mj-column>
        <mj-text font-size=\"10px\" color=\"#6b7280\" padding=\"0\">
          With filters: ",
    .text v,
    .markup "
        </mj-text>
      </mj-column>
    </mj-section>"]

def operatorLabels : List (String × String) :=
  [("equals", "is"), ("not_equals", "is not"), ("contains", "contains"),
    ("not_contains", "does not contain"), ("starts_with", "starts with"),
    ("ends_with", "ends with"), ("gt", ">"), ("gte", "≥"), ("lt", "<"), ("lte", "≤"),
    ("isNull", "is empty"), ("isNotNull", "is not empty"), ("isEmpty", "is empty"),
    ("isNotEmpty", "is not empty")]

section

variable {R : Type} (host : ReportHost R)

def formatOperator (operator : String) : String :=
  (recordGet host operatorLabels operator).getD operator

/-- As `join` writes it. -/
def FilterValue.text : FilterValue R → String
  | .string s => s
  | .number n => host.numeral n
  | .null => ""

def filterText (f : ReportFilter R) : String :=
  let valuesText := ", ".intercalate (f.values.map (FilterValue.text host))
  f.dimensionLabel ++ " " ++ formatOperator host f.operator ++
    (if valuesText = "" then "" else " " ++ valuesText)

def filtersSection (filters : List (ReportFilter R)) : List Piece :=
  if filters = [] then []
  else filtersPieces (" · ".intercalate (filters.map (filterText host)))

def trendView (m : MetricSummary R) : TrendView where
  trendClass := m.trendClass
  change := m.trendPrefix ++ host.numeral m.changePercent

end

/-! ### The page -/

structure PageView where
  subscriptionName : String
  workspaceName : String
  timezone : String
  dateRangeLabel : String
  brandLogoUrl : String
  dashboardUrl : String
  unsubscribeUrl : String

def logoPieces (v : String) : List Piece :=
  [.markup "<img src=\"",
    .attr v,
    .markup "\" alt=\"\" width=\"32\" height=\"32\" style=\"width: 32px; height: 32px; border-radius: 4px; display: block;\" />"]

def initialPieces (v : String) : List Piece :=
  [.markup "<div style=\"width: 32px; height: 32px; background-color: #7763f1; border-radius: 4px; text-align: center; line-height: 32px; color: white; font-weight: bold; font-size: 14px; font-family: Arial, sans-serif;\">",
    .text v,
    .markup "</div>"]

def websiteTextPieces (v : String) : List Piece :=
  [.markup "<div style=\"font-family: Arial, sans-serif; font-size: 10px; color: #9ca3af; line-height: 1;\">",
    .text v,
    .markup "</div>"]

def headPieces (page : PageView) : List Piece :=
  [.markup "<mjml>
  <mj-head>
    <mj-title>",
    .text page.subscriptionName,
    .markup " - ",
    .text page.workspaceName,
    .markup "</mj-title>
    <mj-preview>",
    .text page.subscriptionName,
    .markup " for ",
    .text page.dateRangeLabel,
    .markup "</mj-preview>
    <mj-attributes>
      <mj-all font-family=\"Arial, sans-serif\" />
      <mj-text font-size=\"12px\" color=\"#333333\" line-height=\"1.4\" />
      <mj-section padding=\"0px\" />
    </mj-attributes>
    <mj-style>
      .positive \x7b color: #10b981; \x7d
      .negative \x7b color: #ef4444; \x7d
      .neutral \x7b color: #6b7280; \x7d
      .kpi-table \x7b width: 100%; border-collapse: collapse; font-family: Arial, sans-serif; \x7d
      .kpi-table th \x7b padding: 0 4px 4px 4px; text-align: center; font-size: 11px; color: #6b7280; font-weight: normal; \x7d
      .kpi-table td \x7b padding: 2px 4px; text-align: center; \x7d
      .kpi-table .values td \x7b font-size: 18px; font-weight: bold; \x7d
      .kpi-table .trends td \x7b font-size: 11px; \x7d
    </mj-style>
  </mj-head>

  <mj-body background-color=\"#f3f6fc\">
    <!-- Header: Workspace Info + Veridian Logo -->
    <mj-section padding-top=\"16px\" padding-bottom=\"0px\" padding-left=\"12px\" padding-right=\"12px\">
      <mj-column width=\"70%\" vertical-align=\"middle\">
        <mj-table padding=\"0\">
          <tr>
            <td style=\"width: 36px; vertical-align: middle; padding: 0;\">
              <a href=\"",
    .attr page.dashboardUrl,
    .markup "\" style=\"text-decoration: none;\">"]

def namePieces (page : PageView) : List Piece :=
  [.markup "</a>
            </td>
            <td style=\"vertical-align: middle; padding: 0 0 0 8px;\">
              <a href=\"",
    .attr page.dashboardUrl,
    .markup "\" style=\"text-decoration: none;\"><div style=\"font-family: Arial, sans-serif; font-size: 14px; font-weight: bold; color: #333333; line-height: 1.45;\">",
    .text page.workspaceName,
    .markup "</div></a>
              "]

def titlePieces (page : PageView) : List Piece :=
  [.markup "
            </td>
          </tr>
        </mj-table>
      </mj-column>
      <mj-column width=\"30%\" vertical-align=\"middle\">
        <mj-image src=\"",
    .attr page.brandLogoUrl,
    .markup "\" alt=\"Veridian Analytics\" width=\"32px\" align=\"right\" padding=\"0\" href=\"",
    .attr page.dashboardUrl,
    .markup "\" />
      </mj-column>
    </mj-section>

    <!-- Header: Report Title & Date Range -->
    <mj-section padding-top=\"12px\" padding-bottom=\"12px\" padding-left=\"12px\" padding-right=\"12px\">
      <mj-column width=\"50%\" vertical-align=\"middle\">
        <mj-text font-size=\"15px\" font-weight=\"bold\" color=\"#333333\" padding=\"0\">
          ",
    .text page.subscriptionName,
    .markup "
        </mj-text>
      </mj-column>
      <mj-column width=\"50%\" vertical-align=\"middle\">
        <mj-text font-size=\"11px\" color=\"#6b7280\" align=\"right\" padding=\"0\">
          ",
    .text page.dateRangeLabel,
    .markup " · ",
    .text page.timezone,
    .markup "
        </mj-text>
      </mj-column>
    </mj-section>
"]

def tailPieces (page : PageView) : List Piece :=
  [.markup "

    <mj-section padding-top=\"8px\" padding-bottom=\"8px\">
      <mj-column>
        <mj-button background-color=\"#7763f1\" color=\"#ffffff\" font-size=\"12px\" font-weight=\"bold\" border-radius=\"4px\" padding-top=\"8px\" padding-bottom=\"8px\" padding-left=\"16px\" padding-right=\"16px\" href=\"",
    .attr page.dashboardUrl,
    .markup "\">
          View Dashboard
        </mj-button>
      </mj-column>
    </mj-section>

    <mj-section padding-top=\"8px\" padding-bottom=\"12px\">
      <mj-column>
        <mj-text align=\"center\" font-size=\"11px\" color=\"#9ca3af\">
          <a href=\"",
    .attr page.unsubscribeUrl,
    .markup "\" style=\"color: #9ca3af; text-decoration: underline;\">Unsubscribe</a> from this report
        </mj-text>
      </mj-column>
    </mj-section>
  </mj-body>
</mjml>"]

def headersPieces : List Piece :=
  [.markup "
    <mj-wrapper padding-top=\"8px\">
      <mj-section background-color=\"#ffffff\" padding-top=\"12px\" padding-bottom=\"12px\" padding-left=\"12px\" padding-right=\"12px\">
        <mj-column>
          <mj-raw>
            <table class=\"kpi-table\">
              <thead>
                <tr>
                  "]

def valuesPieces : List Piece :=
  [.markup "
                </tr>
              </thead>
              <tbody>
                <tr class=\"values\">
                  "]

def trendsPieces : List Piece :=
  [.markup "
                </tr>
                <tr class=\"trends\">
                  "]

def tableEndPieces : List Piece :=
  [.markup "
                </tr>
              </tbody>
            </table>
          </mj-raw>
        </mj-column>
      </mj-section>
    </mj-wrapper>
"]

/-- `website.replace(/^https?:\/\//, '')` -/
def withoutProtocol (website : String) : String :=
  if Text.startsWith website "https://" then String.ofList (website.toList.drop 8)
  else if Text.startsWith website "http://" then String.ofList (website.toList.drop 7)
  else website

section

variable {R : Type} (host : ReportHost R)

def brandLogoUrl (dashboardUrl : String) : String :=
  match host.origin dashboardUrl with
  | some origin => origin ++ "/veridian-logo.svg"
  | none => "https://analytics-engine.app.veridian.site/veridian-logo.svg"

def workspaceIcon (workspace : ReportWorkspace) : List Piece :=
  match workspace.logoUrl.filter (· ≠ "") with
  | some logoUrl => logoPieces logoUrl
  | none => initialPieces (host.initial workspace.name)

def websitePieces (workspace : ReportWorkspace) : List Piece :=
  match workspace.website.filter (· ≠ "") with
  | some website => websiteTextPieces (withoutProtocol website)
  | none => []

def pageView (data : ReportData R) (subscriptionName : String) : PageView where
  subscriptionName := subscriptionName
  workspaceName := data.workspace.name
  timezone := data.workspace.timezone
  dateRangeLabel := data.dateRangeLabel
  brandLogoUrl := brandLogoUrl host data.dashboardUrl
  dashboardUrl := data.dashboardUrl
  unsubscribeUrl := data.unsubscribeUrl

/-- The head of the page, up to the table of the metrics. -/
def topPieces (data : ReportData R) (page : PageView) : List Piece :=
  headPieces page ++ workspaceIcon host data.workspace ++ namePieces page ++
    websitePieces data.workspace ++ titlePieces page ++ filtersSection host data.filters

def metricPieces (data : ReportData R) : List Piece :=
  headersPieces ++
    joined "\n                  " (data.metrics.map fun m => headerPieces m.label) ++
    valuesPieces ++
    joined "\n                  " (data.metrics.map fun m => valuePieces m.formatted) ++
    trendsPieces ++
    joined "\n                  " (data.metrics.map fun m => trendPieces (trendView host m)) ++
    tableEndPieces

/-- The pieces of `buildMjml`. -/
def buildMjml (data : ReportData R) (subscriptionName : String) : List Piece :=
  let page := pageView host data subscriptionName
  topPieces host data page ++ metricPieces host data ++
    data.dimensions.flatMap (dimensionPieces host data.appUrl) ++ tailPieces page

/-- The source that is compiled. -/
def mjmlSource (data : ReportData R) (subscriptionName : String) : String :=
  render (buildMjml host data subscriptionName)

end

/-! ### The data stand where they may -/

/-- Every part of the template fits. -/
structure PartsFit : Prop where
  favicon : ∀ v, Fits .data (faviconPieces v) .data
  flag : ∀ icon, Fits .data (flagPieces icon) .data
  browser : ∀ icon, Fits .data (browserPieces icon) .data
  os : ∀ icon, Fits .data (osPieces icon) .data
  device : ∀ icon, Fits .data (devicePieces icon) .data
  rowStart : Fits .data rowStartPieces .data
  rowEnd : ∀ row, Fits .data (rowEndPieces row) .data
  dimensionStart : ∀ dimension, Fits .data (dimensionStartPieces dimension) .data
  dimensionEnd : Fits .data dimensionEndPieces .data
  head : ∀ page, Fits .data (headPieces page) .data
  name : ∀ page, Fits .data (namePieces page) .data
  title : ∀ page, Fits .data (titlePieces page) .data
  tail : ∀ page, Fits .data (tailPieces page) .data
  headers : Fits .data headersPieces .data
  values : Fits .data valuesPieces .data
  trends : Fits .data trendsPieces .data
  tableEnd : Fits .data tableEndPieces .data
  header : ∀ v, Fits .data (headerPieces v) .data
  value : ∀ v, Fits .data (valuePieces v) .data
  trend : ∀ trend, Fits .data (trendPieces trend) .data
  filters : ∀ v, Fits .data (filtersPieces v) .data
  logo : ∀ v, Fits .data (logoPieces v) .data
  initial : ∀ v, Fits .data (initialPieces v) .data
  websiteText : ∀ v, Fits .data (websiteTextPieces v) .data

set_option maxRecDepth 20000 in
theorem partsFit : PartsFit where
  favicon _ :=
    Fits.literal _ (by decide +kernel) (Fits.attr _ (by decide +kernel) rfl)
  flag _ :=
    Fits.literal _ (by decide +kernel)
      (Fits.attr _ (by decide +kernel) (Fits.attr _ (by decide +kernel) rfl))
  browser _ :=
    Fits.literal _ (by decide +kernel)
      (Fits.attr _ (by decide +kernel) (Fits.attr _ (by decide +kernel) rfl))
  os _ :=
    Fits.literal _ (by decide +kernel)
      (Fits.attr _ (by decide +kernel) (Fits.attr _ (by decide +kernel) rfl))
  device _ :=
    Fits.literal _ (by decide +kernel)
      (Fits.attr _ (by decide +kernel) (Fits.attr _ (by decide +kernel) rfl))
  rowStart := Fits.literal _ (by decide +kernel) rfl
  rowEnd _ :=
    Fits.text _ (by decide +kernel) <| Fits.text _ (by decide +kernel) <|
      Fits.attr _ (by decide +kernel) <| Fits.text _ (by decide +kernel) <|
      Fits.attr _ (by decide +kernel) <| Fits.text _ (by decide +kernel) <|
      Fits.attr _ (by decide +kernel) <| Fits.text _ (by decide +kernel) rfl
  dimensionStart _ :=
    Fits.literal _ (by decide +kernel) <| Fits.text _ (by decide +kernel) <|
      Fits.text _ (by decide +kernel) <| Fits.text _ (by decide +kernel) rfl
  dimensionEnd := Fits.literal _ (by decide +kernel) rfl
  head _ :=
    Fits.literal _ (by decide +kernel) <| Fits.text _ (by decide +kernel) <|
      Fits.text _ (by decide +kernel) <| Fits.text _ (by decide +kernel) <|
      Fits.text _ (by decide +kernel) <| Fits.attr _ (by decide +kernel) rfl
  name _ :=
    Fits.literal _ (by decide +kernel) <| Fits.attr _ (by decide +kernel) <|
      Fits.text _ (by decide +kernel) rfl
  title _ :=
    Fits.literal _ (by decide +kernel) <| Fits.attr _ (by decide +kernel) <|
      Fits.attr _ (by decide +kernel) <| Fits.text _ (by decide +kernel) <|
      Fits.text _ (by decide +kernel) <| Fits.text _ (by decide +kernel) rfl
  tail _ :=
    Fits.literal _ (by decide +kernel) <| Fits.attr _ (by decide +kernel) <|
      Fits.attr _ (by decide +kernel) rfl
  headers := Fits.literal _ (by decide +kernel) rfl
  values := Fits.literal _ (by decide +kernel) rfl
  trends := Fits.literal _ (by decide +kernel) rfl
  tableEnd := Fits.literal _ (by decide +kernel) rfl
  header _ :=
    Fits.literal _ (by decide +kernel) (Fits.text _ (by decide +kernel) rfl)
  value _ :=
    Fits.literal _ (by decide +kernel) (Fits.text _ (by decide +kernel) rfl)
  trend _ :=
    Fits.literal _ (by decide +kernel)
      (Fits.attr _ (by decide +kernel) (Fits.text _ (by decide +kernel) rfl))
  filters _ :=
    Fits.literal _ (by decide +kernel) (Fits.text _ (by decide +kernel) rfl)
  logo _ :=
    Fits.literal _ (by decide +kernel) (Fits.attr _ (by decide +kernel) rfl)
  initial _ :=
    Fits.literal _ (by decide +kernel) (Fits.text _ (by decide +kernel) rfl)
  websiteText _ :=
    Fits.literal _ (by decide +kernel) (Fits.text _ (by decide +kernel) rfl)

section

variable {R : Type} (host : ReportHost R)

theorem getDimensionIcon_fits (dimension value appUrl : String) :
    Fits .data (getDimensionIcon host dimension value appUrl) .data := by
  have parts := partsFit
  unfold getDimensionIcon
  dsimp only
  split
  · exact parts.favicon _
  split
  · exact parts.flag _
  split
  · split
    · exact parts.browser _
    · exact rfl
  split
  · split
    · exact parts.os _
    · exact rfl
  split
  · exact parts.device _
  · exact rfl

theorem rowPieces_fits (appUrl : String) (dim : DimensionBreakdown R) (row : DimensionRow R) :
    Fits .data (rowPieces host appUrl dim row) .data := by
  have parts := partsFit
  exact (parts.rowStart.append (getDimensionIcon_fits host _ _ _)).append (parts.rowEnd _)

theorem dimensionPieces_fits (appUrl : String) (dim : DimensionBreakdown R) :
    Fits .data (dimensionPieces host appUrl dim) .data := by
  have parts := partsFit
  refine ((parts.dimensionStart _).append (Fits.joined _ (by decide) ?_)).append
    parts.dimensionEnd
  intro part hpart
  obtain ⟨row, -, rfl⟩ := List.mem_map.mp hpart
  exact rowPieces_fits host appUrl dim row

theorem topPieces_fits (data : ReportData R) (page : PageView) :
    Fits .data (topPieces host data page) .data := by
  have parts := partsFit
  have hicon : Fits .data (workspaceIcon host data.workspace) .data := by
    unfold workspaceIcon
    split
    · exact parts.logo _
    · exact parts.initial _
  have hwebsite : Fits .data (websitePieces data.workspace) .data := by
    unfold websitePieces
    split
    · exact parts.websiteText _
    · exact rfl
  have hfilters : Fits .data (filtersSection host data.filters) .data := by
    unfold filtersSection
    split
    · exact rfl
    · exact parts.filters _
  exact (((((parts.head page).append hicon).append (parts.name page)).append
    hwebsite).append (parts.title page)).append hfilters

/-- The same cell for every metric. -/
theorem metricCells_fit (metrics : List (MetricSummary R))
    {cell : MetricSummary R → List Piece} (h : ∀ m, Fits .data (cell m) .data) :
    Fits .data (joined "\n                  " (metrics.map cell)) .data := by
  refine Fits.joined _ (by decide) fun part hpart => ?_
  obtain ⟨m, -, rfl⟩ := List.mem_map.mp hpart
  exact h m

theorem metricPieces_fits (data : ReportData R) : Fits .data (metricPieces host data) .data := by
  have parts := partsFit
  have hheaders := metricCells_fit data.metrics fun m => parts.header m.label
  have hvalues := metricCells_fit data.metrics fun m => parts.value m.formatted
  have htrends := metricCells_fit data.metrics fun m => parts.trend (trendView host m)
  exact (((((parts.headers.append hheaders).append parts.values).append
    hvalues).append parts.trends).append htrends).append parts.tableEnd

theorem buildMjml_fits (data : ReportData R) (subscriptionName : String) :
    Fits .data (buildMjml host data subscriptionName) .data := by
  have parts := partsFit
  have hdimensions : ∀ dims : List (DimensionBreakdown R),
      Fits .data (dims.flatMap (dimensionPieces host data.appUrl)) .data := by
    intro dims
    induction dims with
    | nil => exact rfl
    | cons dim dims ih => exact (dimensionPieces_fits host data.appUrl dim).append ih
  exact (((topPieces_fits host data _).append (metricPieces_fits host data)).append
    (hdimensions data.dimensions)).append (parts.tail _)

end

/-! ### Safe reports -/

section

variable {R : Type} (host : ReportHost R)

/-- The icon of the row is a file of the application. -/
def servesIcon (dimension value : String) : Bool :=
  if dimension = "country" then value ≠ ""
  else if dimension = "browser" then
    (iconFile host BROWSER_ICONS (host.toLowerCase value)).isSome
  else if dimension = "os" then (iconFile host OS_ICONS (host.toLowerCase value)).isSome
  else dimension = "device"

structure SafeRow (appUrl : String) (dim : DimensionBreakdown R) (row : DimensionRow R) :
    Prop where
  value : textSafe row.value.toList = true
  formattedMetric : textSafe row.formattedMetric.toList = true
  /-- The value of a country is in the address of its flag. -/
  country : dim.dimension = "country" → '"' ∉ row.value.toList
  appUrl : servesIcon host dim.dimension row.value = true → '"' ∉ appUrl.toList

structure SafeMetric (m : MetricSummary R) : Prop where
  label : textSafe m.label.toList = true
  formatted : textSafe m.formatted.toList = true
  trendClass : '"' ∉ m.trendClass.toList
  trendPrefix : textSafe (m.trendPrefix ++ host.numeral m.changePercent).toList = true

def FilterValue.Safe : FilterValue R → Prop
  | .string v => textSafe v.toList = true
  | .number _ => True
  | .null => True

structure SafeFilter (f : ReportFilter R) : Prop where
  dimensionLabel : textSafe f.dimensionLabel.toList = true
  operator : textSafe f.operator.toList = true
  values : ∀ v ∈ f.values, v.Safe

/-- The strings of the page itself. -/
structure SafePage (data : ReportData R) (subscriptionName : String) : Prop where
  subscriptionName : textSafe subscriptionName.toList = true
  workspaceName : textSafe data.workspace.name.toList = true
  timezone : textSafe data.workspace.timezone.toList = true
  dateRangeLabel : textSafe data.dateRangeLabel.toList = true
  website : ∀ v, data.workspace.website = some v → textSafe v.toList = true
  logoUrl : ∀ v, data.workspace.logoUrl = some v → '"' ∉ v.toList
  dashboardUrl : '"' ∉ data.dashboardUrl.toList
  dashboardOrigin : ∀ v, host.origin data.dashboardUrl = some v → '"' ∉ v.toList
  unsubscribeUrl : '"' ∉ data.unsubscribeUrl.toList

/-- No text of the data opens markup, and no value of an attribute has a quote. -/
structure SafeReport (data : ReportData R) (subscriptionName : String) : Prop where
  page : SafePage host data subscriptionName
  filters : ∀ f ∈ data.filters, SafeFilter f
  metrics : ∀ m ∈ data.metrics, SafeMetric host m
  dimensions : ∀ dim ∈ data.dimensions, textSafe dim.label.toList = true ∧
    ∀ row ∈ dim.rows, SafeRow host data.appUrl dim row

/-! ### What is computed is safe -/

theorem numeral_safe (n : R) : textSafe (host.numeral n).toList = true :=
  textSafe_of_not_mem fun h => (host.numeral_plain n _ h).1 rfl

theorem quote_notMem_numeral (n : R) : '"' ∉ (host.numeral n).toList :=
  fun h => (host.numeral_plain n _ h).2 rfl

theorem evoText_safe (evo : Option R) : textSafe (evoText host evo).toList = true := by
  cases evo with
  | none => exact textSafe_of_not_mem (by simp [evoText])
  | some evo =>
      refine textSafe_of_not_mem fun h => ?_
      unfold evoText at h
      rw [String.toList_append, String.toList_append, List.mem_append, List.mem_append] at h
      rcases h with (h | h) | h
      · split at h <;> simp at h
      · exact (host.numeral_plain _ _ h).1 rfl
      · simp at h

theorem quote_notMem_evoColor (evoClass : String) : '"' ∉ (evoColor evoClass).toList := by
  unfold evoColor
  split
  · decide
  · split <;> decide

theorem quote_notMem_heatColorText (c : HeatColor R) :
    '"' ∉ (heatColorText host c).toList := by
  have hnumeral := quote_notMem_numeral host
  cases c with
  | grey => simp [heatColorText]
  | belowReference lightness =>
      simp [heatColorText, String.toList_append, hnumeral]
  | cyan => simp [heatColorText]
  | aboveReference hue lightness =>
      simp [heatColorText, String.toList_append, hnumeral]

theorem initial_safe (s : String) : textSafe (host.initial s).toList = true := by
  rcases host.initial_plain s with h | h
  · rw [h]
    rfl
  · exact textSafe_of_not_mem h

theorem mem_of_lookup {record : List (String × String)} {key v : String}
    (h : record.lookup key = some v) : (key, v) ∈ record := by
  obtain ⟨before, after, hsplit, -⟩ := List.lookup_eq_some_iff.mp h
  rw [hsplit]
  exact List.mem_append_right _ List.mem_cons_self

/-- Of a record that has no quotes. -/
theorem quote_notMem_recordGet {record : List (String × String)}
    (hrecord : ∀ entry ∈ record, '"' ∉ entry.2.toList) {key file : String}
    (h : recordGet host record key = some file) : '"' ∉ file.toList := by
  unfold recordGet at h
  split at h
  · rename_i v hlookup
    obtain rfl := Option.some.inj h
    exact hrecord (key, v) (mem_of_lookup hlookup)
  · exact (host.inherited_plain _ _ h).2.2

theorem quote_notMem_iconFile {icons : List (String × String)}
    (hicons : ∀ entry ∈ icons, '"' ∉ entry.2.toList) {lowerValue file : String}
    (h : iconFile host icons lowerValue = some file) : '"' ∉ file.toList := by
  unfold iconFile at h
  split at h
  · rename_i v hget
    obtain rfl := Option.some.inj h
    exact quote_notMem_recordGet host hicons hget
  · obtain ⟨entry, hfind, rfl⟩ := Option.map_eq_some_iff.mp h
    exact hicons entry (List.mem_of_find?_eq_some hfind)

theorem icons_unquoted :
    (∀ entry ∈ BROWSER_ICONS, '"' ∉ entry.2.toList) ∧
      ∀ entry ∈ OS_ICONS, '"' ∉ entry.2.toList := by
  decide

theorem quote_notMem_deviceFile (lowerValue : String) :
    '"' ∉ (deviceFile lowerValue).toList := by
  unfold deviceFile
  split
  · decide
  · split <;> decide

/-- The labels and the names of the operators open nothing. -/
theorem operatorLabels_safe : ∀ entry ∈ operatorLabels,
    textSafe entry.1.toList = true ∧ textSafe entry.2.toList = true := by
  decide

theorem formatOperator_safe_iff (operator : String) :
    textSafe (formatOperator host operator).toList = true ↔
      textSafe operator.toList = true := by
  unfold formatOperator recordGet
  split
  · rename_i v hlookup
    have hsafe := operatorLabels_safe (operator, v) (mem_of_lookup hlookup)
    exact iff_of_true hsafe.2 hsafe.1
  · cases hinherited : host.inherited operator with
    | none => exact Iff.rfl
    | some v =>
        obtain ⟨hkey, hv, -⟩ := host.inherited_plain _ _ hinherited
        exact iff_of_true (textSafe_of_not_mem hv) (textSafe_of_not_mem hkey)

/-! ### When no data are injected -/

theorem getDimensionIcon_safe_iff (dimension value appUrl : String) :
    (∀ p ∈ getDimensionIcon host dimension value appUrl, p.Safe) ↔
      (dimension = "country" → '"' ∉ value.toList) ∧
        (servesIcon host dimension value = true → '"' ∉ appUrl.toList) := by
  obtain ⟨hbrowser, hos⟩ := icons_unquoted
  by_cases hreferrer : dimension = "referrer_domain"
  · subst hreferrer
    by_cases hvalue : value = "" <;>
      simp [getDimensionIcon, servesIcon, hvalue, faviconPieces, host.encode_plain]
  by_cases hcountry : dimension = "country"
  · subst hcountry
    by_cases hvalue : value = ""
    · simp [getDimensionIcon, servesIcon, hvalue]
    · simp [getDimensionIcon, servesIcon, hvalue, flagPieces, host.toLowerCase_quote, and_comm]
  by_cases hbrowserDim : dimension = "browser"
  · subst hbrowserDim
    cases hfile : iconFile host BROWSER_ICONS (host.toLowerCase value) with
    | none => simp [getDimensionIcon, servesIcon, hfile]
    | some file =>
        have hquote := quote_notMem_iconFile host hbrowser hfile
        simp [getDimensionIcon, servesIcon, hfile, browserPieces, hquote]
  by_cases hosDim : dimension = "os"
  · subst hosDim
    cases hfile : iconFile host OS_ICONS (host.toLowerCase value) with
    | none => simp [getDimensionIcon, servesIcon, hfile]
    | some file =>
        have hquote := quote_notMem_iconFile host hos hfile
        simp [getDimensionIcon, servesIcon, hfile, osPieces, hquote]
  by_cases hdevice : dimension = "device"
  · subst hdevice
    simp [getDimensionIcon, servesIcon, devicePieces, quote_notMem_deviceFile]
  · simp [getDimensionIcon, servesIcon, hreferrer, hcountry, hbrowserDim, hosDim, hdevice]

theorem rowPieces_safe_iff (appUrl : String) (dim : DimensionBreakdown R)
    (row : DimensionRow R) :
    (∀ p ∈ rowPieces host appUrl dim row, p.Safe) ↔ SafeRow host appUrl dim row := by
  have hend : (∀ p ∈ rowEndPieces (rowView host dim.rows row), p.Safe) ↔
      textSafe row.value.toList = true ∧ textSafe row.formattedMetric.toList = true := by
    simp [rowEndPieces, rowView, numeral_safe, evoText_safe, quote_notMem_evoColor,
      quote_notMem_heatColorText]
  have hstart : ∀ p ∈ rowStartPieces, p.Safe := by simp [rowStartPieces]
  unfold rowPieces
  rw [List.forall_mem_append, List.forall_mem_append, getDimensionIcon_safe_iff, hend]
  constructor
  · rintro ⟨⟨-, hcountry, happ⟩, hvalue, hmetric⟩
    exact ⟨hvalue, hmetric, hcountry, happ⟩
  · rintro ⟨hvalue, hmetric, hcountry, happ⟩
    exact ⟨⟨hstart, hcountry, happ⟩, hvalue, hmetric⟩

theorem dimensionPieces_safe_iff (appUrl : String) (dim : DimensionBreakdown R) :
    (∀ p ∈ dimensionPieces host appUrl dim, p.Safe) ↔
      textSafe dim.label.toList = true ∧ ∀ row ∈ dim.rows, SafeRow host appUrl dim row := by
  have hstart : (∀ p ∈ dimensionStartPieces (dimensionView dim), p.Safe) ↔
      textSafe dim.label.toList = true := by
    have hcol1 : textSafe (dimensionView dim).col1Label.toList = true := by
      show textSafe (if _ then _ else _ : String).toList = true
      split <;> decide
    have hcol2 : textSafe (dimensionView dim).col2Label.toList = true := by
      show textSafe (if _ then _ else _ : String).toList = true
      split <;> decide
    have hlabel : (dimensionView dim).label = dim.label := rfl
    simp [dimensionStartPieces, hcol1, hcol2, hlabel]
  have hend : ∀ p ∈ dimensionEndPieces, p.Safe := by simp [dimensionEndPieces]
  unfold dimensionPieces
  rw [List.forall_mem_append, List.forall_mem_append, hstart,
    joined_safe_iff, List.forall_mem_map]
  simp only [rowPieces_safe_iff]
  exact and_iff_left hend

theorem metricPieces_safe_iff (data : ReportData R) :
    (∀ p ∈ metricPieces host data, p.Safe) ↔ ∀ m ∈ data.metrics, SafeMetric host m := by
  have hstatic : (∀ p ∈ headersPieces, p.Safe) ∧ (∀ p ∈ valuesPieces, p.Safe) ∧
      (∀ p ∈ trendsPieces, p.Safe) ∧ ∀ p ∈ tableEndPieces, p.Safe := by
    simp [headersPieces, valuesPieces, trendsPieces, tableEndPieces]
  obtain ⟨hheaders, hvalues, htrends, htableEnd⟩ := hstatic
  have hheader : ∀ m : MetricSummary R, (∀ p ∈ headerPieces m.label, p.Safe) ↔
      textSafe m.label.toList = true := by simp [headerPieces]
  have hvalue : ∀ m : MetricSummary R, (∀ p ∈ valuePieces m.formatted, p.Safe) ↔
      textSafe m.formatted.toList = true := by simp [valuePieces]
  have htrend : ∀ m : MetricSummary R, (∀ p ∈ trendPieces (trendView host m), p.Safe) ↔
      '"' ∉ m.trendClass.toList ∧
        textSafe (m.trendPrefix ++ host.numeral m.changePercent).toList = true := by
    intro m
    simp only [trendPieces, trendView, List.forall_mem_cons, Piece.safe_markup, Piece.safe_attr,
      Piece.safe_text, true_and]
    exact and_congr_right fun _ => and_iff_left fun _ h => absurd h List.not_mem_nil
  unfold metricPieces
  simp only [List.forall_mem_append, joined_safe_iff, List.forall_mem_map,
    hheader, hvalue, htrend]
  constructor
  · rintro ⟨⟨⟨⟨⟨⟨-, hlabel⟩, -⟩, hformatted⟩, -⟩, hchange⟩, -⟩ m hm
    exact ⟨hlabel m hm, hformatted m hm, (hchange m hm).1, (hchange m hm).2⟩
  · intro h
    exact ⟨⟨⟨⟨⟨⟨hheaders, fun m hm => (h m hm).label⟩, hvalues⟩,
      fun m hm => (h m hm).formatted⟩, htrends⟩,
      fun m hm => ⟨(h m hm).trendClass, (h m hm).trendPrefix⟩⟩, htableEnd⟩

/-- A blank, behind which a text stands for itself. -/
theorem textSafe_blank_iff {a b : List Char} :
    textSafe (a ++ ' ' :: b) = true ↔ textSafe a = true ∧ textSafe b = true := by
  rw [textSafe_append_cons (by decide), Bool.and_eq_true]
  exact Iff.rfl

theorem filterText_safe_iff (f : ReportFilter R) :
    textSafe (filterText host f).toList = true ↔ SafeFilter f := by
  have hvalue : ∀ v : FilterValue R, textSafe (v.text host).toList = true ↔ v.Safe := by
    intro v
    cases v with
    | string v => exact Iff.rfl
    | number n => exact iff_of_true (numeral_safe host n) trivial
    | null => exact iff_of_true rfl trivial
  have hvalues : textSafe (", ".intercalate (f.values.map (FilterValue.text host))).toList = true ↔
      ∀ v ∈ f.values, v.Safe := by
    rw [String.toList_intercalate]
    refine (@textSafe_intercalate_iff ',' [' '] (by decide) (by decide) _).trans ?_
    simp only [List.forall_mem_map, hvalue]
  have hoperator := formatOperator_safe_iff host f.operator
  have htext : textSafe (filterText host f).toList = true ↔
      textSafe f.dimensionLabel.toList = true ∧ textSafe f.operator.toList = true ∧
        textSafe (", ".intercalate (f.values.map (FilterValue.text host))).toList = true := by
    unfold filterText
    dsimp only
    by_cases hempty : ", ".intercalate (f.values.map (FilterValue.text host)) = ""
    · have hsplit : (f.dimensionLabel ++ " " ++ formatOperator host f.operator ++ "").toList =
          f.dimensionLabel.toList ++ ' ' :: (formatOperator host f.operator).toList := by
        simp [String.toList_append]
      rw [if_pos hempty, hsplit, textSafe_blank_iff, hoperator, hempty]
      exact and_congr_right fun _ => (and_iff_left rfl).symm
    · have hsplit : ∀ values : String, (f.dimensionLabel ++ " " ++
          formatOperator host f.operator ++ (" " ++ values)).toList =
          f.dimensionLabel.toList ++ ' ' :: ((formatOperator host f.operator).toList ++
            ' ' :: values.toList) := by
        intro values
        simp [String.toList_append]
      rw [if_neg hempty, hsplit, textSafe_blank_iff, textSafe_blank_iff, hoperator]
  rw [htext, hvalues]
  exact ⟨fun h => ⟨h.1, h.2.1, h.2.2⟩, fun h => ⟨h.1, h.2, h.3⟩⟩

theorem filtersSection_safe_iff (filters : List (ReportFilter R)) :
    (∀ p ∈ filtersSection host filters, p.Safe) ↔ ∀ f ∈ filters, SafeFilter f := by
  unfold filtersSection
  split
  · rename_i hempty
    subst hempty
    exact iff_of_true (fun _ h => absurd h List.not_mem_nil) (fun _ h => absurd h List.not_mem_nil)
  · have htext : textSafe (" · ".intercalate (filters.map (filterText host))).toList = true ↔
        ∀ f ∈ filters, SafeFilter f := by
      rw [String.toList_intercalate]
      refine (@textSafe_intercalate_iff ' ' ['·', ' '] (by decide) (by decide) _).trans ?_
      simp only [List.forall_mem_map, filterText_safe_iff]
    simp [filtersPieces, htext, -String.toList_intercalate]

theorem withoutProtocol_safe_iff (website : String) :
    textSafe (withoutProtocol website).toList = true ↔ textSafe website.toList = true := by
  have hdrop : ∀ start : List Char, '<' ∉ start → ∀ n, n = start.length →
      start <+: website.toList →
      (textSafe (String.ofList (website.toList.drop n)).toList = true ↔
        textSafe website.toList = true) := by
    rintro start hstart n rfl ⟨rest, hrest⟩
    rw [String.toList_ofList, ← hrest, List.drop_left, textSafe_append_of_not_mem hstart]
  unfold withoutProtocol
  split
  · rename_i h
    exact hdrop "https://".toList (by decide) 8 (by decide) (of_decide_eq_true h)
  · split
    · rename_i h
      exact hdrop "http://".toList (by decide) 7 (by decide) (of_decide_eq_true h)
    · exact Iff.rfl

/-- Head, name, title and end of the page, with its icon and its website. -/
theorem page_safe_iff (data : ReportData R) (subscriptionName : String) :
    ((∀ p ∈ headPieces (pageView host data subscriptionName), p.Safe) ∧
      (∀ p ∈ workspaceIcon host data.workspace, p.Safe) ∧
      (∀ p ∈ namePieces (pageView host data subscriptionName), p.Safe) ∧
      (∀ p ∈ websitePieces data.workspace, p.Safe) ∧
      (∀ p ∈ titlePieces (pageView host data subscriptionName), p.Safe) ∧
      ∀ p ∈ tailPieces (pageView host data subscriptionName), p.Safe) ↔
    SafePage host data subscriptionName := by
  have hicon : (∀ p ∈ workspaceIcon host data.workspace, p.Safe) ↔
      ∀ v, data.workspace.logoUrl = some v → '"' ∉ v.toList := by
    unfold workspaceIcon
    split
    · rename_i v hv
      have hlogo := (Option.filter_eq_some_iff.mp hv).1
      simp [logoPieces, hlogo]
    · rename_i hnone
      refine iff_of_true (by simp [initialPieces, initial_safe]) fun v hv => ?_
      have hempty := Option.filter_eq_none_iff.mp hnone v hv
      simp_all
  have hwebsite : (∀ p ∈ websitePieces data.workspace, p.Safe) ↔
      ∀ v, data.workspace.website = some v → textSafe v.toList = true := by
    unfold websitePieces
    split
    · rename_i v hv
      have hsite := (Option.filter_eq_some_iff.mp hv).1
      simp [websiteTextPieces, hsite, withoutProtocol_safe_iff]
    · rename_i hnone
      refine iff_of_true (fun _ h => absurd h List.not_mem_nil) fun v hv => ?_
      have hempty := Option.filter_eq_none_iff.mp hnone v hv
      simp_all [textSafe]
  have hlogo : '"' ∉ (brandLogoUrl host data.dashboardUrl).toList ↔
      ∀ v, host.origin data.dashboardUrl = some v → '"' ∉ v.toList := by
    unfold brandLogoUrl
    cases host.origin data.dashboardUrl with
    | none => simp
    | some v => simp [String.toList_append]
  rw [hicon, hwebsite]
  simp only [headPieces, namePieces, titlePieces, tailPieces, pageView, List.forall_mem_cons,
    Piece.safe_markup, Piece.safe_text, Piece.safe_attr, hlogo, true_and]
  constructor
  · rintro ⟨⟨hname, hworkspace, -, hrange, hdashboard, -⟩, hlogoUrl, -, hsite,
      ⟨horigin, -, -, -, htimezone, -⟩, -, hunsubscribe, -⟩
    exact ⟨hname, hworkspace, htimezone, hrange, hsite, hlogoUrl, hdashboard, horigin,
      hunsubscribe⟩
  · intro h
    have hnil : ∀ p ∈ ([] : List Piece), p.Safe := fun _ hp => absurd hp List.not_mem_nil
    exact ⟨⟨h.subscriptionName, h.workspaceName, h.subscriptionName, h.dateRangeLabel,
      h.dashboardUrl, hnil⟩, h.logoUrl, ⟨h.dashboardUrl, h.workspaceName, hnil⟩, h.website,
      ⟨h.dashboardOrigin, h.dashboardUrl, h.subscriptionName, h.dateRangeLabel, h.timezone,
        hnil⟩, h.dashboardUrl, h.unsubscribeUrl, hnil⟩

theorem buildMjml_safe_iff (data : ReportData R) (subscriptionName : String) :
    (∀ p ∈ buildMjml host data subscriptionName, p.Safe) ↔
      SafeReport host data subscriptionName := by
  have hpage := page_safe_iff host data subscriptionName
  have hdimensions : (∀ p ∈ data.dimensions.flatMap (dimensionPieces host data.appUrl), p.Safe) ↔
      ∀ dim ∈ data.dimensions, textSafe dim.label.toList = true ∧
        ∀ row ∈ dim.rows, SafeRow host data.appUrl dim row := by
    rw [List.forall_mem_flatMap]
    simp only [dimensionPieces_safe_iff]
  unfold buildMjml topPieces
  simp only [List.forall_mem_append, metricPieces_safe_iff, filtersSection_safe_iff, hdimensions]
  constructor
  · rintro ⟨⟨⟨⟨⟨⟨⟨⟨hhead, hicon⟩, hname⟩, hsite⟩, htitle⟩, hfilters⟩, hmetrics⟩, hdims⟩, htail⟩
    exact ⟨hpage.mp ⟨hhead, hicon, hname, hsite, htitle, htail⟩, hfilters, hmetrics, hdims⟩
  · rintro ⟨hsafe, hfilters, hmetrics, hdims⟩
    obtain ⟨hhead, hicon, hname, hsite, htitle, htail⟩ := hpage.mpr hsafe
    exact ⟨⟨⟨⟨⟨⟨⟨⟨hhead, hicon⟩, hname⟩, hsite⟩, htitle⟩, hfilters⟩, hmetrics⟩, hdims⟩, htail⟩

/-- **When a report mail has the tags of its template.**

No string of the data introduces a tag or an attribute, in place of it or behind it, exactly
when the report is safe. -/
theorem uninjected_iff_safeReport (data : ReportData R) (subscriptionName : String) :
    Uninjected .data (buildMjml host data subscriptionName) ↔
      SafeReport host data subscriptionName :=
  (uninjected_iff (buildMjml_fits host data subscriptionName)).trans
    (buildMjml_safe_iff host data subscriptionName)

end

namespace MarkupExample

theorem toLower_eq_quote_iff {c : Char} : c.toLower = '"' ↔ c = '"' := by
  unfold Char.toLower
  split
  · rename_i hupper
    have hlow : 65 ≤ c.val.toNat := UInt32.le_iff_toNat_le.mp hupper.1
    have hhigh : c.val.toNat ≤ 90 := UInt32.le_iff_toNat_le.mp hupper.2
    refine iff_of_false (fun heq => ?_) ?_
    · have hval : c.val + ('a'.val - 'A'.val) = '"'.val := congrArg Char.val heq
      have hnat : (c.val.toNat + 32) % 2 ^ 32 = 34 := congrArg UInt32.toNat hval
      omega
    · rintro rfl
      exact absurd hlow (by decide)
  · exact Iff.rfl

def host : ReportHost Nat where
  numeral n := toString n
  numeral_plain n c hc := by
    have hdigit := Text.isDigit_of_mem_toString hc
    refine ⟨?_, ?_⟩
    · rintro rfl
      exact absurd hdigit (by decide)
    · rintro rfl
      exact absurd hdigit (by decide)
  positive n := 0 < n
  heatColor _ _ := .grey
  toLowerCase := Text.asciiLower
  toLowerCase_quote s := by
    unfold Text.asciiLower
    rw [String.toList_ofList, List.mem_map]
    constructor
    · rintro ⟨c, hc, heq⟩
      rwa [← toLower_eq_quote_iff.mp heq]
    · exact fun h => ⟨'"', h, rfl⟩
  encodeURIComponent s := String.ofList (s.toList.filter Char.isAlphanum)
  encode_plain s := by
    rw [String.toList_ofList, List.mem_filter]
    exact fun h => absurd h.2 (by decide)
  initial s := String.ofList ((s.toList.take 1).map Char.toUpper)
  initial_plain s := by
    rw [String.toList_ofList]
    rcases s.toList with - | ⟨c, rest⟩
    · exact Or.inr (by simp)
    · by_cases hc : c.toUpper = '<'
      · exact Or.inl (by simp [hc])
      · exact Or.inr (by simpa using Ne.symm hc)
  origin _ := some "https://analytics.example.com"
  inherited _ := none
  inherited_plain _ _ h := nomatch h

/-- One visit, from a campaign of that name. -/
def data (source : String) : ReportData Nat where
  workspace := { name := "Shop", timezone := "UTC", website := none, logoUrl := none }
  dateRangeLabel := "May 4, 2026"
  metrics := []
  dimensions := [{
    dimension := "utm_source"
    label := "UTM Source"
    rows := [{
      value := source, sessions := 1, sessionsEvo := none, sessionsEvoClass := "neutral"
      metric := 0, metricEvo := none, metricEvoClass := "neutral", formattedMetric := "0s" }] }]
  filters := []
  appUrl := "https://analytics.example.com"
  dashboardUrl := "https://analytics.example.com/workspaces/shop"
  unsubscribeUrl := "https://analytics.example.com/unsubscribe"

end MarkupExample

open MarkupExample in
/-- The name of a campaign that is an image with a script. -/
theorem image_in_source_name :
    events .data (mjmlSource host (data "<img src=x onerror=alert(1)>") "Weekly").toList ≠
        events .data (mjmlSource host (data "newsletter") "Weekly").toList ∧
      ¬ Uninjected .data (buildMjml host (data "<img src=x onerror=alert(1)>") "Weekly") := by
  have hplain : (buildMjml host (data "<img src=x onerror=alert(1)>") "Weekly").map Piece.plain =
      (buildMjml host (data "newsletter") "Weekly").map Piece.plain := rfl
  have hfits := buildMjml_fits host (data "<img src=x onerror=alert(1)>") "Weekly"
  have hclosed : ∀ p ∈ buildMjml host (data "<img src=x onerror=alert(1)>") "Weekly",
      p.Safe ∨ p.Closed := by
    decide +kernel
  have hmem : Piece.text "<img src=x onerror=alert(1)>" ∈
      buildMjml host (data "<img src=x onerror=alert(1)>") "Weekly" := by
    unfold buildMjml
    refine List.mem_append_left _ (List.mem_append_right _ ?_)
    refine List.mem_flatMap_of_mem List.mem_cons_self ?_
    refine List.mem_append_left _ (List.mem_append_right _ ?_)
    exact List.mem_append_right _ List.mem_cons_self
  have hne := hfits.events_ne hclosed hmem (by decide +kernel)
  have hsafe : Uninjected .data (buildMjml host (data "newsletter") "Weekly") :=
    (uninjected_iff (buildMjml_fits host _ _)).mpr (by decide +kernel)
  refine ⟨?_, fun h => hne h.events_eq⟩
  unfold mjmlSource
  rw [hsafe.events_eq, ← hplain]
  exact hne

end Veridian.ReportGeneratorService
