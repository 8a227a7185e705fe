/-!
The Typst sources of the two built-in styles. Each defines an `article` function that takes the
title, the authors and the language and lays out the body.
-/

namespace Typeset.Template

/-- Source of the `modern-tech` style: a sans-serif article with tinted code blocks. -/
def modernTechSource : String :=
  "// Clean sans-serif article layout with tinted code blocks.\n"
    ++ "#let article(title: none, authors: (), lang: \"zh\", body) = \x7b\n"
    ++ "  set document(title: title, author: authors)\n"
    ++ "  set page(paper: \"a4\", margin: (x: 2.2cm, y: 2.4cm), numbering: \"1\")\n"
    ++ "  set text(lang: lang, size: 10.5pt, font: (\"Inter\", \"Noto Sans CJK SC\", \"Noto Sans\"))\n"
    ++ "  set par(justify: true, leading: 0.75em)\n"
    ++ "  show heading: set block(above: 1.4em, below: 0.8em)\n"
    ++ "  show link: set text(fill: rgb(\"#2563eb\"))\n"
    ++ "  show raw.where(block: true): block.with(\n"
    ++ "    fill: luma(246),\n"
    ++ "    inset: 10pt,\n"
    ++ "    radius: 4pt,\n"
    ++ "    width: 100%,\n"
    ++ "  )\n"
    ++ "  show quote: block.with(stroke: (left: 2pt + luma(200)), inset: (left: 10pt, y: 4pt))\n"
    ++ "\n"
    ++ "  if title != none and title != \"\" \x7b\n"
    ++ "    align(center, text(size: 20pt, weight: \"bold\", title))\n"
    ++ "    if authors.len() > 0 \x7b\n"
    ++ "      align(center, text(fill: luma(100), authors.join(\", \")))\n"
    ++ "    \x7d\n"
    ++ "    v(1.2em)\n"
    ++ "  \x7d\n"
    ++ "  body\n"
    ++ "\x7d\n"

/-- Source of the `classic-editorial` style: a serif article with a centered title block. -/
def classicEditorialSource : String :=
  "// Serif layout with a centered title block and ruled header.\n"
    ++ "#let article(title: none, authors: (), lang: \"zh\", body) = \x7b\n"
    ++ "  set document(title: title, author: authors)\n"
    ++ "  set page(\n"
    ++ "    paper: \"a4\",\n"
    ++ "    margin: (x: 2.6cm, y: 2.8cm),\n"
    ++ "    numbering: \"1\",\n"
    ++ "    header: if title != none and title != \"\" \x7b\n"
    ++ "      align(right, text(size: 8pt, style: \"italic\", title))\n"
    ++ "    \x7d,\n"
    ++ "  )\n"
    ++ "  set text(lang: lang, size: 11pt, font: (\"Libertinus Serif\", \"Noto Serif CJK SC\", \"Noto Serif\"))\n"
    ++ "  set par(justify: true, first-line-indent: 1.5em, leading: 0.8em)\n"
    ++ "  show heading: set text(weight: \"regular\", style: \"italic\")\n"
    ++ "  show raw.where(block: true): block.with(stroke: 0.5pt + luma(180), inset: 8pt, width: 100%)\n"
    ++ "\n"
    ++ "  if title != none and title != \"\" \x7b\n"
    ++ "    align(center)[\n"
    ++ "      #text(size: 22pt, title)\n"
    ++ "      #if authors.len() > 0 [\n"
    ++ "        \\\n"
    ++ "        #text(size: 11pt, style: \"italic\", authors.join(\" · \"))\n"
    ++ "      ]\n"
    ++ "    ]\n"
    ++ "    line(length: 100%, stroke: 0.6pt)\n"
    ++ "    v(1em)\n"
    ++ "  \x7d\n"
    ++ "  body\n"
    ++ "\x7d\n"

/-- The bundled source of a built-in style, by its id. -/
def bundledSource? (id : String) : Option String :=
  if id = "modern-tech" then some modernTechSource
  else if id = "classic-editorial" then some classicEditorialSource
  else none

end Typeset.Template
