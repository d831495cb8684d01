import DiagramDoc.Document.Outline
import DiagramDoc.Html.Escape

/-! # Standalone pages

A page holds a document together with the style and the scripts that draw its diagrams and
highlight its code. The document stands between a part that depends on the title and the table of
contents and a part that is the same in every page.
-/

namespace DiagramDoc

open Html

def mermaidScript : String := "https://cdn.jsdelivr.net/npm/mermaid@10/dist/mermaid.min.js"

def highlightScript : String :=
  "https://cdn.jsdelivr.net/gh/highlightjs/cdn-release@11/build/highlight.min.js"

def highlightStyle : String :=
  "https://cdn.jsdelivr.net/gh/highlightjs/cdn-release@11/build/styles/github.min.css"

def pageStyle : String :=
  "body \x7b max-width: 960px; margin: 0 auto; padding: 2rem 1rem; font-family: system-ui," ++
  " sans-serif; line-height: 1.6; \x7d\n" ++
  "nav.toc \x7b border-left: 3px solid #ddd; padding-left: 1rem; margin-bottom: 2rem; \x7d\n" ++
  "nav.toc ul \x7b list-style: none; padding-left: 0; \x7d\n" ++
  ".mermaid, .plantuml \x7b margin: 1rem 0; text-align: center; \x7d\n" ++
  ".plantuml img \x7b max-width: 100%; \x7d\n" ++
  ".plantuml-loading \x7b min-height: 3rem; background: #f6f8fa; \x7d\n" ++
  ".plantuml-error \x7b text-align: left; border: 1px solid #e5a0a0; background: #fff5f5;" ++
  " padding: 0.75rem; \x7d\n" ++
  ".diagram-error-message \x7b color: #b42318; margin: 0 0 0.5rem; \x7d\n"

/-- The script of a page: it draws the Mermaid diagrams, highlights the code, and shows the source
of a PlantUML diagram whose image cannot be had. -/
def pageScript : String :=
  "\n" ++
  "function showPlantumlFailure(container) \x7b\n" ++
  "  if (!container || !container.parentNode) \x7b\n" ++
  "    return;\n" ++
  "  \x7d\n" ++
  "  var error = document.createElement('div');\n" ++
  "  error.className = 'plantuml plantuml-error';\n" ++
  "  error.id = container.id;\n" ++
  "  var message = document.createElement('p');\n" ++
  "  message.className = 'diagram-error-message';\n" ++
  "  message.textContent = 'PlantUML render failed';\n" ++
  "  var details = document.createElement('details');\n" ++
  "  var summary = document.createElement('summary');\n" ++
  "  summary.textContent = 'Source';\n" ++
  "  var pre = document.createElement('pre');\n" ++
  "  var code = document.createElement('code');\n" ++
  "  code.textContent = container.getAttribute('data-plantuml-code') || '';\n" ++
  "  pre.appendChild(code);\n" ++
  "  details.appendChild(summary);\n" ++
  "  details.appendChild(pre);\n" ++
  "  error.appendChild(message);\n" ++
  "  error.appendChild(details);\n" ++
  "  container.replaceWith(error);\n" ++
  "\x7d\n" ++
  "\n" ++
  "document.addEventListener('error', function (event) \x7b\n" ++
  "  var target = event.target;\n" ++
  "  if (target.classList && target.classList.contains('plantuml-diagram')) \x7b\n" ++
  "    showPlantumlFailure(target.closest('.plantuml'));\n" ++
  "  \x7d\n" ++
  "\x7d, true);\n" ++
  "\n" ++
  "document.querySelectorAll('.plantuml-failed').forEach(showPlantumlFailure);\n" ++
  "\n" ++
  "document.addEventListener('DOMContentLoaded', function () \x7b\n" ++
  "  document.querySelectorAll('pre code').forEach(function (block) \x7b\n" ++
  "    if (!block.closest('.plantuml-error')) \x7b\n" ++
  "      hljs.highlightElement(block);\n" ++
  "    \x7d\n" ++
  "  \x7d);\n" ++
  "\n" ++
  "  mermaid.initialize(\x7b\n" ++
  "    startOnLoad: false,\n" ++
  "    theme: 'default',\n" ++
  "    securityLevel: 'loose',\n" ++
  "    flowchart: \x7b useMaxWidth: true, htmlLabels: true, curve: 'basis' \x7d,\n" ++
  "    sequence: \x7b useMaxWidth: true, wrap: true \x7d\n" ++
  "  \x7d);\n" ++
  "  mermaid.run(\x7b nodes: document.querySelectorAll('.mermaid') \x7d);\n" ++
  "\x7d);\n"

structure Page where
  title : String
  content : String
  toc : List TocEntry
  deriving DecidableEq, Repr

namespace Page

def tocItem (entry : TocEntry) : String :=
  "<li style=\"margin-left: " ++ toString (entry.level - 2) ++ "rem\"><a href=\"#" ++
    escape entry.id ++ "\">" ++ escape entry.title ++ "</a></li>\n"

def tocHtml (toc : List TocEntry) : String :=
  if toc.isEmpty then ""
  else "<nav class=\"toc\">\n<ul>\n" ++ String.join (toc.map tocItem) ++ "</ul>\n</nav>\n"

def opening (title : String) (toc : List TocEntry) : String :=
  "<!DOCTYPE html>\n<html lang=\"en\">\n<head>\n" ++
    "<meta charset=\"utf-8\">\n" ++
    "<meta name=\"viewport\" content=\"width=device-width, initial-scale=1\">\n" ++
    "<title>" ++ escape title ++ "</title>\n" ++
    "<link rel=\"stylesheet\" href=\"" ++ highlightStyle ++ "\">\n" ++
    "<style>\n" ++ pageStyle ++ "</style>\n" ++
    "<script src=\"" ++ mermaidScript ++ "\"></script>\n" ++
    "<script src=\"" ++ highlightScript ++ "\"></script>\n" ++
    "</head>\n<body>\n" ++ tocHtml toc ++ "<article class=\"markdown-body\">\n"

def closing : String :=
  "</article>\n<script>" ++ pageScript ++ "</script>\n</body>\n</html>\n"

def endLine (s : String) : String :=
  if s.toList.getLast? = some '\n' then s else s ++ "\n"

def html (p : Page) : String := opening p.title p.toc ++ endLine p.content ++ closing

end Page

end DiagramDoc
