import Swatchbook.Text

/-!
# Built-in template and theme

What pages look like when a configuration names neither a template nor a theme.
-/

namespace Swatchbook.Template.Builtin

def template : Text := "<!doctype html>
<html lang=\"en\">
<head>
  <meta charset=\"utf-8\">
  <meta name=\"viewport\" content=\"width=device-width, initial-scale=1\">
  <title>\x7b% if page.title and page.title != title %\x7d\x7b\x7b page.title \x7d\x7d | \x7b% endif %\x7d\x7b\x7b title \x7d\x7d</title>
  \x7b\x7b theme|safe \x7d\x7d
  \x7b\x7b highlight|safe \x7d\x7d
  \x7b\x7b assets|safe \x7d\x7d
</head>
<body class=\"sassdown\">
  <nav class=\"sassdown-nav\">
    <a class=\"sassdown-home\" href=\"\x7b\x7b url('index.html') \x7d\x7d\">\x7b\x7b title \x7d\x7d</a>
    <ul>
    \x7b%- for node in pages recursive %\x7d
      \x7b%- if node.kind == \"directory\" %\x7d
      <li class=\"sassdown-dir\">
        <span>\x7b\x7b node.name|deslug \x7d\x7d</span>
        <ul>\x7b\x7b loop(node.pages) \x7d\x7d</ul>
      </li>
      \x7b%- else %\x7d
      <li class=\"sassdown-file\x7b% if node.href == page.href %\x7d active\x7b% endif %\x7d\">
        <a href=\"\x7b\x7b url(node.href) \x7d\x7d\">\x7b\x7b node.title \x7d\x7d</a>
      </li>
      \x7b%- endif %\x7d
    \x7b%- endfor %\x7d
    </ul>
  </nav>

  <main class=\"sassdown-main\">
    \x7b%- for section in page.sections %\x7d
    <section class=\"sassdown-section\">
      <div class=\"sassdown-comment\">\x7b\x7b section.comment|safe \x7d\x7d</div>
      \x7b%- if section.example is defined %\x7d
      <div class=\"sassdown-example\">
        <div class=\"sassdown-result\">\x7b\x7b section.example|safe \x7d\x7d</div>
        <div class=\"sassdown-markup\">\x7b\x7b section.markup|safe \x7d\x7d</div>
      </div>
      \x7b%- endif %\x7d
      \x7b%- if section.styles is defined %\x7d
      <details class=\"sassdown-styles\">
        <summary>Styles</summary>
        \x7b\x7b section.styles|safe \x7d\x7d
      </details>
      \x7b%- endif %\x7d
    </section>
    \x7b%- endfor %\x7d
  </main>

  \x7b\x7b scripts|safe \x7d\x7d
</body>
</html>
"

def theme : Text := ".sassdown \x7b
  display: flex;
  margin: 0;
  min-height: 100vh;
  font-family: -apple-system, BlinkMacSystemFont, \"Segoe UI\", Helvetica, Arial, sans-serif;
  line-height: 1.5;
  color: #24292e;
\x7d

.sassdown-nav \x7b
  flex: 0 0 16rem;
  padding: 1.5rem 1rem;
  background: #f6f8fa;
  border-right: 1px solid #e1e4e8;
  font-size: 0.875rem;
\x7d

.sassdown-nav ul \x7b
  list-style: none;
  margin: 0;
  padding-left: 0.75rem;
\x7d

.sassdown-nav > ul \x7b
  padding-left: 0;
\x7d

.sassdown-nav a \x7b
  color: inherit;
  text-decoration: none;
\x7d

.sassdown-nav a:hover,
.sassdown-file.active > a \x7b
  color: #0366d6;
\x7d

.sassdown-home \x7b
  display: block;
  margin-bottom: 1rem;
  font-weight: 600;
  font-size: 1rem;
\x7d

.sassdown-dir > span \x7b
  display: block;
  margin-top: 0.5rem;
  font-weight: 600;
  text-transform: capitalize;
\x7d

.sassdown-main \x7b
  flex: 1 1 auto;
  min-width: 0;
  padding: 1.5rem 2rem;
\x7d

.sassdown-section + .sassdown-section \x7b
  margin-top: 2.5rem;
  padding-top: 1.5rem;
  border-top: 1px solid #e1e4e8;
\x7d

.sassdown-example \x7b
  border: 1px solid #e1e4e8;
  border-radius: 4px;
\x7d

.sassdown-result \x7b
  padding: 1rem;
\x7d

.sassdown-markup pre,
.sassdown-styles pre \x7b
  margin: 0;
  padding: 0.75rem 1rem;
  overflow-x: auto;
  font-size: 0.8125rem;
  background: #f6f8fa;
\x7d

.sassdown-markup pre \x7b
  border-top: 1px solid #e1e4e8;
\x7d

.sassdown-styles \x7b
  margin-top: 0.75rem;
\x7d

.sassdown-styles summary \x7b
  cursor: pointer;
  font-size: 0.875rem;
  color: #586069;
\x7d
"

end Swatchbook.Template.Builtin
